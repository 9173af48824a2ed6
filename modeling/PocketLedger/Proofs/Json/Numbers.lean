import PocketLedger.Proofs.Json.Texts

/-!
# JSON numbers can be read back

`IsNumber` is the grammar of numbers without their sign. Every such number is passed over, and
read or refused as a whole, as long as nothing behind it continues it. An integer that fits its
64 bits is read back from its digits.
-/

namespace PocketLedger.Json

open Text (Glyph glyphs)

/-! ## Numbers -/

/-- At least one decimal digit, and nothing else. -/
def IsDigits (text : List Char) : Prop := text ≠ [] ∧ ∀ c ∈ text, c.isDigit = true

/-- Digits before a point, where only zero itself starts with a zero. -/
def IsWhole (text : List Char) : Prop :=
  IsDigits text ∧ (text.head? = some '0' → text = ['0'])

/-- A point with digits, or nothing. -/
inductive IsFraction : List Char → Prop
  | absent : IsFraction []
  | present {digits : List Char} (isDigits : IsDigits digits) : IsFraction ('.' :: digits)

/-- An exponent with or without a sign, or nothing. -/
inductive IsExponent : List Char → Prop
  | absent : IsExponent []
  | present {mark : Char} {sign digits : List Char} (isMark : mark = 'e' ∨ mark = 'E')
      (isSign : sign ∈ [[], ['+'], ['-']]) (isDigits : IsDigits digits) :
      IsExponent (mark :: (sign ++ digits))

/-- A number without its sign. -/
inductive IsNumber : List Char → Prop
  | mk {whole fraction exponent : List Char} (isWhole : IsWhole whole)
      (isFraction : IsFraction fraction) (isExponent : IsExponent exponent) :
      IsNumber (whole ++ (fraction ++ exponent))

/-- The value of a decimal digit. -/
def digitValue (c : Char) : Nat := c.toNat - 0x30

/-- A digit is read as its value. -/
theorem digit?_of_isDigit {c : Char} (isDigit : c.isDigit = true) :
    digit? (.char c) = some (digitValue c) := by
  have within : '0' ≤ c ∧ c ≤ '9' := by
    simpa [Char.isDigit, Char.le_def] using isDigit
  rw [digit?, if_pos within, digitValue]

/-- Other characters are no digits. -/
theorem digit?_of_not_isDigit {c : Char} (notDigit : c.isDigit = false) :
    digit? (.char c) = none := by
  have outside : ¬ ('0' ≤ c ∧ c ≤ '9') := by
    intro within
    have isDigit : c.isDigit = true := by simpa [Char.isDigit, Char.le_def] using within
    rw [isDigit] at notDigit
    cases notDigit
  rw [digit?, if_neg outside]

/-- No digits are at the front of a text that starts with something else. -/
theorem digits_of_not_isDigit {c : Char} (notDigit : c.isDigit = false) (rest : List Glyph) :
    digits (.char c :: rest) = ([], .char c :: rest) := by
  rw [digits, digit?_of_not_isDigit notDigit]

/-- Where a number ends there are no more digits. -/
theorem digits_of_endsNumber {rest : List Glyph} (ends : EndsNumber rest) :
    digits rest = ([], rest) := by
  match rest with
  | [] => rfl
  | .stray bytes :: rest => rfl
  | .char c :: rest =>
    refine digits_of_not_isDigit ?_ rest
    have notNumeric : continuesNumber c = false := ends
    simp only [continuesNumber, Bool.or_eq_false_iff] at notNumeric
    exact notNumeric.1.1.1

/-- Digits are taken up to the first glyph that is none. -/
theorem digits_append {text : List Char} (isDigits : ∀ c ∈ text, c.isDigit = true)
    {rest : List Glyph} (ends : digits rest = ([], rest)) :
    digits (glyphs text ++ rest) = (text.map digitValue, rest) := by
  induction text with
  | nil => exact ends
  | cons c text ih =>
    rw [Text.glyphs_cons, List.cons_append, digits,
      digit?_of_isDigit (isDigits c List.mem_cons_self),
      ih fun c mem => isDigits c (List.mem_cons_of_mem _ mem)]
    rfl

/-- Digits are read up to where they end, and there is at least one. -/
theorem someDigits_append (atEnd : Fault) {text : List Char} (isDigits : IsDigits text)
    {rest : List Glyph} (ends : digits rest = ([], rest)) :
    someDigits atEnd (glyphs text ++ rest) = .ok (text.map digitValue, rest) := by
  obtain ⟨nonempty, all⟩ := isDigits
  rw [someDigits, digits_append all ends]
  cases text with
  | nil => exact absurd rfl nonempty
  | cons c text => rfl

/-- Zero is the only digit of the value zero. -/
theorem digitValue_eq_zero {c : Char} (isDigit : c.isDigit = true) (zero : digitValue c = 0) :
    c = '0' := by
  have within : '0'.toNat ≤ c.toNat ∧ c.toNat ≤ '9'.toNat := by
    simpa [Char.isDigit, UInt32.le_iff_toNat_le] using isDigit
  have code : '0'.toNat = 0x30 := rfl
  rw [digitValue] at zero
  exact Char.toNat_inj.mp (by omega)

/-- The whole part is read up to where its digits end. -/
theorem wholePart_append (atEnd : Fault) {text : List Char} (isWhole : IsWhole text)
    {rest : List Glyph} (ends : digits rest = ([], rest)) :
    wholePart atEnd (glyphs text ++ rest) = .ok (text.map digitValue, rest) := by
  obtain ⟨isDigits, leading⟩ := isWhole
  rw [wholePart, someDigits_append atEnd isDigits ends]
  split
  next same =>
    -- A zero with another digit behind it is no whole part.
    simp only [Except.ok.injEq, Prod.mk.injEq] at same
    obtain ⟨first, others, rfl, zero, more⟩ := List.map_eq_cons_iff.mp same.1
    have isZero := digitValue_eq_zero (isDigits.2 first List.mem_cons_self) zero
    have alone := leading (by rw [isZero]; rfl)
    rw [(List.cons.inj alone).2] at more
    cases more
  next => rfl

/-- Where a number goes on or ends behind its whole part, its digits have ended. -/
theorem digits_of_fraction {fraction exponent : List Char} (isFraction : IsFraction fraction)
    (isExponent : IsExponent exponent) {rest : List Glyph} (ends : EndsNumber rest) :
    digits (glyphs fraction ++ (glyphs exponent ++ rest)) =
      ([], glyphs fraction ++ (glyphs exponent ++ rest)) := by
  cases isFraction with
  | present => exact digits_of_not_isDigit (by decide) _
  | absent =>
    cases isExponent with
    | absent => exact digits_of_endsNumber ends
    | present isMark =>
      refine digits_of_not_isDigit ?_ _
      rcases isMark with rfl | rfl <;> rfl

/-- Without a point there is no fraction. -/
theorem fractionPart_absent (atEnd : Fault) {rest : List Glyph}
    (noPoint : ∀ more, rest ≠ .char '.' :: more) : fractionPart atEnd rest = .ok ([], rest) := by
  unfold fractionPart
  split
  next more => exact absurd rfl (noPoint more)
  next => rfl

/-- Where a number ends there is no exponent. -/
theorem exponentPart?_absent (atEnd : Fault) {rest : List Glyph} (ends : EndsNumber rest) :
    exponentPart? atEnd rest = .ok (none, rest) := by
  match rest with
  | [] => rfl
  | .stray bytes :: rest => rfl
  | .char c :: rest =>
    have notNumeric : continuesNumber c = false := ends
    simp only [continuesNumber, Bool.or_eq_false_iff, decide_eq_false_iff_not] at notNumeric
    rw [exponentPart?, if_neg (by rintro (rfl | rfl) <;> simp at notNumeric)]

/-- Where a number ends there is no point. -/
theorem not_point_of_endsNumber {rest : List Glyph} (ends : EndsNumber rest)
    (more : List Glyph) : rest ≠ .char '.' :: more := by
  rintro rfl
  cases ends

/-- The exponent of a number, or its absence, is read. -/
theorem exists_exponentPart? {text : List Char} (isExponent : IsExponent text) :
    ∃ exponent, ∀ atEnd rest, EndsNumber rest →
      exponentPart? atEnd (glyphs text ++ rest) = .ok (exponent, rest) := by
  cases isExponent with
  | absent => exact ⟨none, fun atEnd rest ends => exponentPart?_absent atEnd ends⟩
  | @present mark sign digits isMark isSign isDigits =>
    have signed : ∃ negative, ∀ rest, exponentSign (glyphs (sign ++ digits) ++ rest) =
        (negative, glyphs digits ++ rest) := by
      simp only [List.mem_cons, List.not_mem_nil, or_false] at isSign
      rcases isSign with rfl | rfl | rfl
      · refine ⟨false, fun rest => ?_⟩
        obtain ⟨nonempty, all⟩ := isDigits
        cases digits with
        | nil => exact absurd rfl nonempty
        | cons first digits =>
          have isDigit := all first List.mem_cons_self
          rw [List.nil_append, Text.glyphs_cons, List.cons_append]
          unfold exponentSign
          split
          next same =>
            rw [Text.char_inj same] at isDigit
            cases isDigit
          next same =>
            rw [Text.char_inj same] at isDigit
            cases isDigit
          next => rfl
      · exact ⟨false, fun rest => rfl⟩
      · exact ⟨true, fun rest => rfl⟩
    obtain ⟨negative, sign⟩ := signed
    let value : Int := decimalValue (digits.map digitValue)
    refine ⟨some (if negative then -value else value), fun atEnd rest ends => ?_⟩
    rw [Text.glyphs_cons, List.cons_append, exponentPart?, if_pos isMark, exponentPart, sign]
    simp only [someDigits_append atEnd isDigits (digits_of_endsNumber ends), Scanned.mapValue,
      value]

/-- A number is read as a literal, whatever is to be reported at the end of the text. -/
theorem exists_literal {text : List Char} (isNumber : IsNumber text) (negative : Bool) :
    ∃ found, ∀ atEnd rest, EndsNumber rest →
      literal atEnd negative (glyphs text ++ rest) = .ok (found, rest) := by
  obtain ⟨isWhole, isFraction, isExponent⟩ := isNumber
  rename_i whole fraction exponent
  obtain ⟨power, readExponent⟩ := exists_exponentPart? isExponent
  have readFraction : ∃ digits, ∀ atEnd rest, EndsNumber rest →
      fractionPart atEnd (glyphs fraction ++ (glyphs exponent ++ rest)) =
        .ok (digits, glyphs exponent ++ rest) := by
    cases isFraction with
    | absent =>
      refine ⟨[], fun atEnd rest ends => fractionPart_absent atEnd ?_⟩
      cases isExponent with
      | absent => exact not_point_of_endsNumber ends
      | present isMark =>
        rintro more same
        have isPoint := Text.char_inj same
        rcases isMark with rfl | rfl <;> cases isPoint
    | present isDigits =>
      refine ⟨_, fun atEnd rest ends => someDigits_append atEnd isDigits ?_⟩
      exact digits_of_fraction .absent isExponent ends
  obtain ⟨places, readFraction⟩ := readFraction
  refine ⟨⟨negative, whole.map digitValue, places, power⟩, fun atEnd rest ends => ?_⟩
  rw [Text.glyphs_append, Text.glyphs_append, List.append_assoc, List.append_assoc, literal,
    wholePart_append atEnd isWhole (digits_of_fraction isFraction isExponent ends)]
  simp only [Scanned.andThen, readFraction atEnd rest ends, readExponent atEnd rest ends,
    Scanned.mapValue]

/-- A number is passed over, with its fraction and its exponent. -/
theorem passes_skipNumber {text : List Char} (isNumber : IsNumber text) :
    Passes skipNumber text := by
  obtain ⟨found, read⟩ := exists_literal isNumber false
  intro rest ends
  rw [skipNumber, read .malformed rest ends]
  rfl

/-- A number is read, or always refused because it is too large. -/
theorem exists_settles_number {text : List Char} (isNumber : IsNumber text) (negative : Bool) :
    ∃ outcome, Settles (number negative) text outcome := by
  obtain ⟨found, read⟩ := exists_literal isNumber negative
  have settles : Settles (literal .truncated negative) text (some found) := read .truncated
  refine ⟨_, (settles.tested Literal.number? .malformed).congr fun rest => ?_⟩
  rw [number]
  congr 1
  funext literal rest
  cases literal.number? <;> rfl

/-- Digits that fit 64 bits are all taken up. -/
theorem takeFitting_eq {digits : List Nat} {significand : Nat}
    (fits : digits.foldl (fun total digit => 10 * total + digit) significand < UInt64.size) :
    takeFitting significand digits =
      (digits.foldl (fun total digit => 10 * total + digit) significand, []) := by
  have grows : ∀ (digits : List Nat) (start : Nat),
      start ≤ digits.foldl (fun total digit => 10 * total + digit) start := by
    intro digits
    induction digits with
    | nil => exact fun start => Nat.le_refl start
    | cons digit digits ih =>
      intro start
      exact Nat.le_trans (by omega) (ih (10 * start + digit))
  induction digits generalizing significand with
  | nil => rfl
  | cons digit digits ih =>
    rw [List.foldl_cons] at fits ⊢
    rw [takeFitting, if_pos (Nat.lt_of_le_of_lt (grows digits _) fits), ih fits]

/-- The digits of a number are a whole part. -/
theorem isWhole_toDigits (number : Nat) : IsWhole (Nat.toDigits 10 number) := by
  refine ⟨⟨Nat.toDigits_ne_nil, fun c mem => ?_⟩, ?_⟩
  · exact Nat.isDigit_of_mem_toDigits (by decide) (by decide) mem
  · induction number using Nat.strongRecOn with
    | ind number ih =>
      intro leading
      rw [Nat.toDigits_eq_if (by decide)] at leading ⊢
      split at leading
      next small =>
        rw [if_pos small]
        exact List.singleton_inj.mpr (Option.some.inj leading)
      next large =>
        have front : (Nat.toDigits 10 (number / 10)).head? = some '0' := by
          cases higher : Nat.toDigits 10 (number / 10) with
          | nil => exact absurd higher Nat.toDigits_ne_nil
          | cons first others =>
            rw [higher] at leading
            exact leading
        have zero := ih (number / 10) (by omega) front
        have value := congrArg (Nat.ofDigitChars 10 · 0) zero
        simp only [Nat.ofDigitChars_toDigits (b := 10) (by decide) (by decide)] at value
        have isZero : number / 10 = 0 := value
        omega

/-- The digits of a natural number are a number. -/
theorem isNumber_toDigits (number : Nat) : IsNumber (Nat.toDigits 10 number) := by
  have isNumber := IsNumber.mk (isWhole_toDigits number) .absent .absent
  rwa [List.append_nil, List.append_nil] at isNumber

/-- The digits of a number that fits 64 bits are read as that number, with either sign. -/
theorem literal_toDigits (atEnd : Fault) (negative : Bool) (number : Nat) {rest : List Glyph}
    (ends : EndsNumber rest) :
    literal atEnd negative (glyphs (Nat.toDigits 10 number) ++ rest) =
      .ok (⟨negative, (Nat.toDigits 10 number).map digitValue, [], none⟩, rest) := by
  rw [literal, wholePart_append atEnd (isWhole_toDigits number) (digits_of_endsNumber ends)]
  simp only [Scanned.andThen, Scanned.mapValue, exponentPart?_absent atEnd ends,
    fractionPart_absent atEnd (not_point_of_endsNumber ends)]

/-- All digits of a number below `2 ^ 64` are taken. -/
theorem takeFitting_toDigits {number : Nat} (fits : number < UInt64.size) :
    takeFitting 0 ((Nat.toDigits 10 number).map digitValue) = (number, []) := by
  have value : ((Nat.toDigits 10 number).map digitValue).foldl
      (fun total digit => 10 * total + digit) 0 = number := by
    rw [List.foldl_map]
    exact Nat.ofDigitChars_toDigits (by decide) (by decide)
  rw [takeFitting_eq (by rwa [value]), value]

/-- A natural number that fits 64 bits is read back. -/
theorem settles_number_toDigits {value : Nat} (fits : value < UInt64.size) :
    Settles (number false) (Nat.toDigits 10 value) (some (.integer value)) := by
  intro rest ends
  simp [number, literal_toDigits .truncated false value ends, Scanned.andThen, Literal.number?,
    takeFitting_toDigits fits]

/-- A negative number that fits 63 bits and its sign is read back. -/
theorem settles_number_negative {value : Nat} (positive : 0 < value)
    (fits : value ≤ UInt64.size / 2) :
    Settles (number true) (Nat.toDigits 10 value) (some (.integer (-value))) := by
  have size : UInt64.size / 2 < UInt64.size := by decide
  intro rest ends
  have inRange : ¬ (value = 0 ∨ UInt64.size / 2 < value) := by omega
  simp [number, literal_toDigits .truncated true value ends, Scanned.andThen, Literal.number?,
    takeFitting_toDigits (Nat.lt_of_le_of_lt fits size), inRange]

end PocketLedger.Json
