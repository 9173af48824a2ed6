import PocketLedger.Json.Value

/-!
# JSON texts can be read back

A scan reads from the front of a text, so it has to be said what it does with anything behind:
`Settles` is one answer for a text whatever follows it, and `Passes` is the same for a scan that
skips. Only a number has to be followed by something that does not continue it, which is what
`EndsNumber` asks for. `IsTextEnd` is the grammar of texts between quotes; every such text is
passed over, and read or refused as a whole. A text that was written is read back.
-/

namespace PocketLedger

namespace Text

@[simp]
theorem glyphs_nil : glyphs [] = [] := rfl

@[simp]
theorem glyphs_cons (c : Char) (text : List Char) :
    glyphs (c :: text) = .char c :: glyphs text := rfl

@[simp]
theorem glyphs_append (left right : List Char) :
    glyphs (left ++ right) = glyphs left ++ glyphs right :=
  List.map_append

@[simp]
theorem length_glyphs (text : List Char) : (glyphs text).length = text.length :=
  List.length_map _

/-- Glyphs of characters are told apart by the characters. -/
theorem char_inj {c d : Char} {left right : List Glyph}
    (same : Glyph.char c :: left = .char d :: right) : c = d :=
  Glyph.char.inj (List.cons.inj same).1

end Text

namespace Json

open Text (Glyph glyphs)

/-! ## What follows a text -/

/-- Whether a character can continue a number. -/
def continuesNumber (c : Char) : Bool := c.isDigit || c = '.' || c = 'e' || c = 'E'

/-- A rest that does not continue a number in front of it. -/
def EndsNumber : List Glyph → Prop
  | .char c :: _ => continuesNumber c = false
  | _ => True

/-- What a scan makes of a text, whatever follows: a value, with all that follows left over, or
always some fault. -/
def Settles {α : Type} (scan : List Glyph → Scanned α) (text : List Char) : Option α → Prop
  | some value => ∀ rest, EndsNumber rest → scan (glyphs text ++ rest) = .ok (value, rest)
  | none => ∀ rest, EndsNumber rest → ∃ fault, scan (glyphs text ++ rest) = .error fault

/-- A scan that skips a text, whatever follows. -/
def Passes (skip : List Glyph → Except Fault (List Glyph)) (text : List Char) : Prop :=
  ∀ rest, EndsNumber rest → skip (glyphs text ++ rest) = .ok rest

section Settles

variable {α β : Type} {scan : List Glyph → Scanned α} {text : List Char} {outcome : Option α}

/-- A function of the value leaves where the scan ends. -/
theorem Settles.mapValue (settles : Settles scan text outcome) (f : α → β) :
    Settles (fun glyphs => (scan glyphs).mapValue f) text (outcome.map f) := by
  cases outcome with
  | none =>
    intro rest ends
    obtain ⟨fault, failed⟩ := settles rest ends
    exact ⟨fault, by simp only [failed, Scanned.mapValue]⟩
  | some value =>
    intro rest ends
    simp only [settles rest ends, Scanned.mapValue]

/-- A scan that goes on with what follows. -/
theorem Settles.andThen_some {value : α} (settles : Settles scan text (some value))
    {next : α → List Glyph → Scanned β} {tail : List Char} {final : Option β}
    (goesOn : Settles (next value) tail final)
    (ends : ∀ rest, EndsNumber rest → EndsNumber (glyphs tail ++ rest)) :
    Settles (fun glyphs => (scan glyphs).andThen next) (text ++ tail) final := by
  cases final with
  | none =>
    intro rest restEnds
    obtain ⟨fault, failed⟩ := goesOn rest restEnds
    refine ⟨fault, ?_⟩
    simp only [Text.glyphs_append, List.append_assoc, settles _ (ends rest restEnds),
      Scanned.andThen, failed]
  | some final =>
    intro rest restEnds
    simp only [Text.glyphs_append, List.append_assoc, settles _ (ends rest restEnds),
      Scanned.andThen, goesOn rest restEnds]

/-- What is refused is refused with anything behind it. -/
theorem Settles.andThen_none (settles : Settles scan text none)
    (next : α → List Glyph → Scanned β) {tail : List Char}
    (ends : ∀ rest, EndsNumber rest → EndsNumber (glyphs tail ++ rest)) :
    Settles (fun glyphs => (scan glyphs).andThen next) (text ++ tail) none := by
  intro rest restEnds
  obtain ⟨fault, failed⟩ := settles _ (ends rest restEnds)
  refine ⟨fault, ?_⟩
  simp only [Text.glyphs_append, List.append_assoc, failed, Scanned.andThen]

/-- Two scans in a row settle two texts in a row. -/
theorem Settles.andThen (settles : Settles scan text outcome) {next : α → List Glyph → Scanned β}
    {further : α → Option β} {tail : List Char}
    (goesOn : ∀ value, outcome = some value → Settles (next value) tail (further value))
    (ends : ∀ rest, EndsNumber rest → EndsNumber (glyphs tail ++ rest)) :
    Settles (fun glyphs => (scan glyphs).andThen next) (text ++ tail) (outcome.bind further) := by
  cases outcome with
  | none => exact settles.andThen_none next ends
  | some value => exact settles.andThen_some (goesOn value rfl) ends

/-- A scan that goes on with a test of the value, and refuses what fails it. -/
theorem Settles.tested (settles : Settles scan text outcome) (test : α → Option β) (fault : Fault) :
    Settles (fun glyphs => (scan glyphs).andThen fun value rest =>
      match test value with
      | some found => .ok (found, rest)
      | none => .error fault) text (outcome.bind test) := by
  rw [← List.append_nil text]
  refine settles.andThen (fun value _ => ?_) fun _ ends => ends
  cases test value with
  | none => exact fun rest _ => ⟨fault, rfl⟩
  | some found => exact fun rest _ => rfl

/-- A scan that, behind a front, goes on as another one does, which may depend on what follows. -/
theorem Settles.of_each {other : List Glyph → Scanned α} {front : List Char}
    (each : ∀ rest, ∃ scan, Settles scan text outcome ∧
      other (glyphs front ++ (glyphs text ++ rest)) = scan (glyphs text ++ rest)) :
    Settles other (front ++ text) outcome := by
  cases outcome with
  | none =>
    intro rest ends
    obtain ⟨scan, settles, same⟩ := each rest
    rw [Text.glyphs_append, List.append_assoc, same]
    exact settles rest ends
  | some value =>
    intro rest ends
    obtain ⟨scan, settles, same⟩ := each rest
    rw [Text.glyphs_append, List.append_assoc, same]
    exact settles rest ends

/-- Scans that do the same with a text settle alike. -/
theorem Settles.congr {other : List Glyph → Scanned α} (settles : Settles scan text outcome)
    (same : ∀ rest, other (glyphs text ++ rest) = scan (glyphs text ++ rest)) :
    Settles other text outcome := by
  rw [← List.nil_append text]
  exact Settles.of_each fun rest => ⟨scan, settles, same rest⟩

/-- A scan that, behind a front, goes on as another one does settles as that one does. -/
theorem Settles.behind {other : List Glyph → Scanned α} (settles : Settles scan text outcome)
    (front : List Char) (goesOn : ∀ rest, other (glyphs front ++ rest) = scan rest) :
    Settles other (front ++ text) outcome :=
  Settles.of_each fun _ => ⟨scan, settles, goesOn _⟩

/-- The front may end in a mark. -/
theorem Settles.behindMark {other : List Glyph → Scanned α} (settles : Settles scan text outcome)
    (front : List Char) (mark : Char)
    (goesOn : ∀ rest, other (glyphs front ++ .char mark :: rest) = scan rest) :
    Settles other (front ++ mark :: text) outcome := by
  rw [List.append_cons]
  refine settles.behind (front ++ [mark]) fun rest => ?_
  rw [Text.glyphs_append, List.append_assoc]
  exact goesOn rest

end Settles

/-! ## Blanks and words -/

/-- A text of blanks only. -/
def IsBlanks (text : List Char) : Prop := ∀ c ∈ text, isBlank c = true

@[simp]
theorem isBlanks_nil : IsBlanks [] := nofun

/-- All of the blanks in front are skipped. -/
theorem skipBlanks_append {before : List Char} (blanks : IsBlanks before) (rest : List Glyph) :
    skipBlanks (glyphs before ++ rest) = skipBlanks rest := by
  induction before with
  | nil => rfl
  | cons c before ih =>
    have blank : isBlank c = true := blanks c List.mem_cons_self
    rw [Text.glyphs_cons, List.cons_append, skipBlanks, if_pos blank]
    exact ih fun c mem => blanks c (List.mem_cons_of_mem _ mem)

/-- Nothing is skipped in front of a character that is no blank. -/
theorem skipBlanks_solid {c : Char} (solid : isBlank c = false) (rest : List Glyph) :
    skipBlanks (.char c :: rest) = .char c :: rest := by
  rw [skipBlanks, solid]
  rfl

/-- Blanks are skipped up to the first character that is none. -/
theorem skipBlanks_before {before : List Char} (blanks : IsBlanks before) {c : Char}
    (solid : isBlank c = false) (text : List Char) (rest : List Glyph) :
    skipBlanks (glyphs (before ++ c :: text) ++ rest) = .char c :: (glyphs text ++ rest) := by
  rw [Text.glyphs_append, List.append_assoc, skipBlanks_append blanks]
  exact skipBlanks_solid solid _

/-- An expected word is passed. -/
theorem expect_append (word : List Char) (rest : List Glyph) :
    expect word (glyphs word ++ rest) = .ok rest := by
  induction word with
  | nil => rfl
  | cons c word ih => rw [Text.glyphs_cons, List.cons_append, expect, if_pos rfl, ih]

/-- Blanks end a number, and without any, what follows has to. -/
theorem endsNumber_blanks_append {before : List Char} (blanks : IsBlanks before)
    {rest : List Glyph} (ends : EndsNumber rest) : EndsNumber (glyphs before ++ rest) := by
  cases before with
  | nil => exact ends
  | cons c before =>
    have blank : isBlank c = true := blanks c List.mem_cons_self
    have notNumeric : ∀ c, isBlank c = true → continuesNumber c = false := by
      intro c blank
      simp only [isBlank, Bool.or_eq_true, decide_eq_true_eq] at blank
      rcases blank with ((rfl | rfl) | rfl) | rfl <;> rfl
    exact notNumeric c blank

/-! ## Texts -/

/-- A hexadecimal digit of either case. -/
def IsHexDigit (c : Char) : Prop :=
  ('0' ≤ c ∧ c ≤ '9') ∨ ('a' ≤ c ∧ c ≤ 'f') ∨ ('A' ≤ c ∧ c ≤ 'F')

instance : DecidablePred IsHexDigit :=
  fun c => inferInstanceAs
    (Decidable (('0' ≤ c ∧ c ≤ '9') ∨ ('a' ≤ c ∧ c ≤ 'f') ∨ ('A' ≤ c ∧ c ≤ 'F')))

/-- The spelling of one unit of a text: a character as it is, a letter after a backslash, or a
number of four hexadecimal digits. -/
inductive IsUnit : List Char → Prop
  | plain {c : Char} (notQuote : c ≠ '"') (notBackslash : c ≠ '\\') (notControl : 0x20 ≤ c.toNat) :
      IsUnit [c]
  | letter {c : Char} (known : c ∈ ['"', '\\', '/', 'b', 'f', 'n', 'r', 't']) : IsUnit ['\\', c]
  | code {a b c d : Char} (first : IsHexDigit a) (second : IsHexDigit b) (third : IsHexDigit c)
      (fourth : IsHexDigit d) : IsUnit ['\\', 'u', a, b, c, d]

/-- The units of a text with its closing quote. -/
inductive IsTextEnd : List Char → Prop
  | close : IsTextEnd ['"']
  | unit {unit text : List Char} (spelled : IsUnit unit) (others : IsTextEnd text) :
      IsTextEnd (unit ++ text)

/-- A hexadecimal digit has a value. -/
theorem exists_hexValue? {c : Char} (isHex : IsHexDigit c) :
    ∃ value, hexValue? (.char c) = some value := by
  simp only [hexValue?]
  split
  · exact ⟨_, rfl⟩
  · split
    · exact ⟨_, rfl⟩
    · split
      · exact ⟨_, rfl⟩
      · rcases isHex with digit | lower | upper <;> contradiction

/-- Four hexadecimal digits are a number. -/
theorem exists_hexEscape {a b c d : Char} (first : IsHexDigit a) (second : IsHexDigit b)
    (third : IsHexDigit c) (fourth : IsHexDigit d) :
    ∃ unit, ∀ rest, hexEscape (.char a :: .char b :: .char c :: .char d :: rest) =
      .ok (unit, rest) := by
  obtain ⟨w, atFirst⟩ := exists_hexValue? first
  obtain ⟨x, atSecond⟩ := exists_hexValue? second
  obtain ⟨y, atThird⟩ := exists_hexValue? third
  obtain ⟨z, atFourth⟩ := exists_hexValue? fourth
  refine ⟨((w * 16 + x) * 16 + y) * 16 + z, fun rest => ?_⟩
  simp only [hexEscape, atFirst, atSecond, atThird, atFourth]

/-- What a text goes on with after a piece. -/
def afterPiece (care : Care) : Scanned Piece → Scanned (Option (List Char))
  | .error fault => .error fault
  | .ok (.close, rest) => .ok (some [], rest)
  | .ok (.char c, rest) => (pieces care rest).mapValue (·.map (c :: ·))
  | .ok (.stray, rest) => (pieces care rest).mapValue fun _ => none

/-- A text is read piece by piece, and the first piece decides how it goes on. -/
theorem pieces_eq (care : Care) (text : List Glyph) :
    pieces care text = afterPiece care (piece care text) := by
  rw [pieces]
  split
  next fault h => rw [h]; rfl
  next rest h => rw [h]; rfl
  next c rest h =>
    rw [h, afterPiece]
    cases pieces care rest <;> rfl
  next rest h =>
    rw [h, afterPiece]
    cases pieces care rest <;> rfl

/-- The closing quote ends a text. -/
theorem pieces_close (care : Care) (rest : List Glyph) :
    pieces care (.char '"' :: rest) = .ok (some [], rest) := by
  rw [pieces_eq]
  rfl

/-- A character that needs no escape stands for itself. -/
theorem piece_plain (care : Care) {c : Char} (notQuote : c ≠ '"') (notBackslash : c ≠ '\\')
    (notControl : 0x20 ≤ c.toNat) (rest : List Glyph) :
    piece care (.char c :: rest) = .ok (.char c, rest) := by
  rw [piece, if_neg notQuote, if_neg notBackslash, if_neg (Nat.not_lt.mpr notControl)]

/-- A letter after a backslash stands for a character. -/
theorem exists_piece_letter {c : Char} (known : c ∈ ['"', '\\', '/', 'b', 'f', 'n', 'r', 't']) :
    ∃ meaning, ∀ care rest, piece care (.char '\\' :: .char c :: rest) =
      .ok (.char meaning, rest) := by
  simp only [List.mem_cons, List.not_mem_nil, or_false] at known
  rcases known with rfl | rfl | rfl | rfl | rfl | rfl | rfl | rfl <;>
    exact ⟨_, fun care rest => rfl⟩

/-- An escape by code is read as such. -/
theorem piece_code (care : Care) (rest : List Glyph) :
    piece care (.char '\\' :: .char 'u' :: rest) = unitEscape care rest := by
  simp [piece, escape, letterEscape?]

/-- Passing over a text gets to its end. -/
theorem exists_pieces_skipped {text : List Char} (isTextEnd : IsTextEnd text)
    (rest : List Glyph) : ∃ found, pieces .skipped (glyphs text ++ rest) = .ok (found, rest) := by
  induction isTextEnd with
  | close => exact ⟨_, pieces_close .skipped rest⟩
  | @unit unit text spelled others ih =>
    obtain ⟨found, scanned⟩ := ih
    rw [Text.glyphs_append, List.append_assoc, pieces_eq]
    cases spelled with
    | plain notQuote notBackslash notControl =>
      exact ⟨_, by
        rw [Text.glyphs_cons, Text.glyphs_nil, List.cons_append, List.nil_append,
          piece_plain .skipped notQuote notBackslash notControl, afterPiece, scanned]
        rfl⟩
    | letter known =>
      obtain ⟨meaning, read⟩ := exists_piece_letter known
      exact ⟨_, by
        simp only [Text.glyphs_cons, Text.glyphs_nil, List.cons_append, List.nil_append]
        rw [read, afterPiece, scanned]
        rfl⟩
    | code first second third fourth =>
      obtain ⟨number, read⟩ := exists_hexEscape first second third fourth
      simp only [Text.glyphs_cons, Text.glyphs_nil, List.cons_append, List.nil_append]
      rw [piece_code, unitEscape, read]
      dsimp only
      split
      · exact ⟨_, by rw [afterPiece, scanned]; rfl⟩
      · exact ⟨_, by rw [afterPiece, scanned]; rfl⟩

/-- A text is passed over up to its closing quote. -/
theorem passes_skipText {text : List Char} (isTextEnd : IsTextEnd text) :
    Passes skipText text := by
  intro rest _
  obtain ⟨found, scanned⟩ := exists_pieces_skipped isTextEnd rest
  rw [skipText, scanned]
  rfl

/-- What a wanted text goes on with behind the first half of a surrogate pair. -/
def afterHigh (high : Nat) (text : List Glyph) : Scanned (Option (List Char)) :=
  afterPiece .kept (lowEscape high text)

/-- The second half of a surrogate pair has to be an escape too. -/
theorem lowEscape_of_ne (high : Nat) {c : Char} (notBackslash : c ≠ '\\') (rest : List Glyph) :
    lowEscape high (.char c :: rest) = .error .malformed := by
  match rest with
  | [] => rw [lowEscape, if_neg notBackslash]
  | .char d :: rest => rw [lowEscape, if_neg (fun both => notBackslash both.1)]
  | .stray bytes :: rest => rfl

/-- A wanted text is read to its end or always refused, also behind half a surrogate pair. -/
theorem exists_settles_pieces {text : List Char} (isTextEnd : IsTextEnd text) :
    (∃ outcome, Settles (pieces .kept) text outcome) ∧
      ∀ high, ∃ outcome, Settles (afterHigh high) text outcome := by
  -- A pair takes two units at once, so both statements are carried along.
  induction isTextEnd with
  | close =>
    constructor
    · exact ⟨some (some []), fun rest _ => pieces_close .kept rest⟩
    · intro high
      refine ⟨none, fun rest _ => ⟨.malformed, ?_⟩⟩
      rw [afterHigh, Text.glyphs_cons, List.cons_append, lowEscape_of_ne high (by decide)]
      rfl
  | @unit unit text spelled others ih =>
    obtain ⟨⟨outcome, settles⟩, pairs⟩ := ih
    have behindChar : ∀ c, (∀ rest, piece .kept (glyphs unit ++ rest) = .ok (.char c, rest)) →
        ∃ outcome, Settles (pieces .kept) (unit ++ text) outcome := by
      intro c read
      refine ⟨_, (settles.mapValue (·.map (c :: ·))).behind _ fun rest => ?_⟩
      rw [pieces_eq, read]
      rfl
    cases spelled with
    | @plain c notQuote notBackslash notControl =>
      constructor
      · exact behindChar c (piece_plain .kept notQuote notBackslash notControl)
      · intro high
        refine ⟨none, fun rest _ => ⟨.malformed, ?_⟩⟩
        rw [afterHigh, List.cons_append, Text.glyphs_cons, List.cons_append,
          lowEscape_of_ne high notBackslash]
        rfl
    | @letter c known =>
      constructor
      · obtain ⟨meaning, read⟩ := exists_piece_letter known
        exact behindChar meaning (read .kept)
      · intro high
        have notCode : c ≠ 'u' := by
          rintro rfl
          exact absurd known (by decide)
        refine ⟨none, fun rest _ => ⟨.malformed, ?_⟩⟩
        simp [afterHigh, lowEscape, notCode, afterPiece]
    | code first second third fourth =>
      obtain ⟨number, read⟩ := exists_hexEscape first second third fourth
      constructor
      · by_cases low : isLowSurrogate number
        · refine ⟨none, fun rest _ => ⟨.malformed, ?_⟩⟩
          simp [pieces_eq, piece_code, unitEscape, read, low, afterPiece]
        · by_cases high : isHighSurrogate number
          · obtain ⟨outcome, settles⟩ := pairs number
            refine ⟨outcome, settles.behind _ fun rest => ?_⟩
            simp [pieces_eq, piece_code, unitEscape, read, low, high, afterHigh]
          · refine behindChar (Char.ofNat number) fun rest => ?_
            simp [piece_code, unitEscape, read, low, high]
      · intro high
        by_cases low : isLowSurrogate number
        · refine ⟨_, (settles.mapValue (·.map (surrogatePair high number :: ·))).behind _
            fun rest => ?_⟩
          simp [afterHigh, lowEscape, read, low, afterPiece]
        · refine ⟨none, fun rest _ => ⟨.malformed, ?_⟩⟩
          simp [afterHigh, lowEscape, read, low, afterPiece]

/-- A wanted text, from behind its opening quote, is read or always refused. -/
theorem exists_settles_text {text : List Char} (isTextEnd : IsTextEnd text) :
    ∃ outcome, Settles Json.text text outcome := by
  obtain ⟨⟨outcome, settles⟩, _⟩ := exists_settles_pieces isTextEnd
  match outcome with
  | none =>
    refine ⟨none, fun rest ends => ?_⟩
    obtain ⟨fault, failed⟩ := settles rest ends
    exact ⟨fault, by rw [Json.text, failed]⟩
  | some none =>
    refine ⟨none, fun rest ends => ⟨.malformed, ?_⟩⟩
    rw [Json.text, settles rest ends]
  | some (some characters) =>
    refine ⟨some characters, fun rest ends => ?_⟩
    rw [Json.text, settles rest ends]

/-- The spelling of a control by number is read back. -/
theorem hexEscape_control {number : Nat} (control : number < 0x20) (rest : List Glyph) :
    hexEscape (glyphs ('0' :: '0' :: Hex.encode [number.toUInt8]) ++ rest) =
      .ok (number, rest) := by
  have digits : ∀ number < 0x20,
      hexValue? (.char (Hex.digit (number.toUInt8 >>> (4 : UInt8)))) = some (number / 16) ∧
        hexValue? (.char (Hex.digit (number.toUInt8 &&& 0x0f))) = some (number % 16) := by decide
  obtain ⟨high, low⟩ := digits number control
  have zero : hexValue? (.char '0') = some 0 := rfl
  simp only [Hex.encode, List.flatMap_cons, List.flatMap_nil, List.append_nil, Text.glyphs_cons,
    Text.glyphs_nil, List.cons_append, List.nil_append, hexEscape, zero, high, low]
  congr 2
  omega

/-- A character is written as a letter that stands for it, by number, or as it is. -/
theorem writeChar_cases (c : Char) :
    (∃ letter ∈ ['"', '\\', '/', 'b', 'f', 'n', 'r', 't'], writeChar c = ['\\', letter] ∧
        ∀ rest, piece .kept (.char '\\' :: .char letter :: rest) = .ok (.char c, rest)) ∨
      (c.toNat < 0x20 ∧ writeChar c = '\\' :: 'u' :: '0' :: '0' :: Hex.encode [c.toNat.toUInt8]) ∨
      (c ≠ '"' ∧ c ≠ '\\' ∧ 0x20 ≤ c.toNat ∧ writeChar c = [c]) := by
  unfold writeChar
  split
  next h => subst h; exact .inl ⟨'"', by decide, rfl, fun _ => rfl⟩
  next notQuote =>
    split
    next h => subst h; exact .inl ⟨'\\', by decide, rfl, fun _ => rfl⟩
    next notBackslash =>
      split
      next h => subst h; exact .inl ⟨'b', by decide, rfl, fun _ => rfl⟩
      split
      next h => subst h; exact .inl ⟨'f', by decide, rfl, fun _ => rfl⟩
      split
      next h => subst h; exact .inl ⟨'n', by decide, rfl, fun _ => rfl⟩
      split
      next h => subst h; exact .inl ⟨'r', by decide, rfl, fun _ => rfl⟩
      split
      next h => subst h; exact .inl ⟨'t', by decide, rfl, fun _ => rfl⟩
      split
      next control => exact .inr (.inl ⟨control, rfl⟩)
      next notControl => exact .inr (.inr ⟨notQuote, notBackslash, Nat.not_lt.mp notControl, rfl⟩)

/-- The spelling of a character is read back. -/
theorem piece_writeChar (c : Char) (rest : List Glyph) :
    piece .kept (glyphs (writeChar c) ++ rest) = .ok (.char c, rest) := by
  rcases writeChar_cases c with ⟨letter, _, written, stands⟩ | ⟨control, written⟩ |
    ⟨notQuote, notBackslash, notControl, written⟩
  · rw [written]
    exact stands rest
  · have notHalf : ∀ number < 0x20,
        isLowSurrogate number = false ∧ isHighSurrogate number = false := by decide
    obtain ⟨notLow, notHigh⟩ := notHalf c.toNat control
    rw [written, Text.glyphs_cons, Text.glyphs_cons, List.cons_append, List.cons_append, piece_code,
      unitEscape, hexEscape_control control]
    simp [notLow, notHigh]
  · rw [written]
    exact piece_plain .kept notQuote notBackslash notControl rest

/-- A written character is one unit of a text, escaped or not. -/
theorem isUnit_writeChar (c : Char) : IsUnit (writeChar c) := by
  rcases writeChar_cases c with ⟨letter, known, written, _⟩ | ⟨control, written⟩ |
    ⟨notQuote, notBackslash, notControl, written⟩
  · rw [written]
    exact .letter known
  · have digits : ∀ number < 0x20, IsHexDigit (Hex.digit (number.toUInt8 >>> (4 : UInt8))) ∧
        IsHexDigit (Hex.digit (number.toUInt8 &&& 0x0f)) := by decide
    obtain ⟨high, low⟩ := digits c.toNat control
    rw [written]
    exact .code (by decide) (by decide) high low
  · rw [written]
    exact .plain notQuote notBackslash notControl

/-- What is written for a text is one, behind its opening quote. -/
theorem isTextEnd_written (characters : List Char) :
    IsTextEnd (characters.flatMap writeChar ++ ['"']) := by
  induction characters with
  | nil => exact .close
  | cons c characters ih =>
    rw [List.flatMap_cons, List.append_assoc]
    exact .unit (isUnit_writeChar c) ih

/-- A text that was written is read back from behind its opening quote. -/
theorem settles_text_written (characters : List Char) :
    Settles Json.text (characters.flatMap writeChar ++ ['"']) (some characters) := by
  have whole : Settles (pieces .kept) (characters.flatMap writeChar ++ ['"'])
      (some (some characters)) := by
    induction characters with
    | nil => exact fun rest _ => pieces_close .kept rest
    | cons c characters ih =>
      rw [List.flatMap_cons, List.append_assoc]
      refine (ih.mapValue (·.map (c :: ·))).behind _ fun rest => ?_
      rw [pieces_eq, piece_writeChar]
      rfl
  intro rest ends
  rw [Json.text, whole rest ends]

end Json
end PocketLedger
