import PocketLedger.Proofs.Digest

/-!
# Reading hexadecimal text

Digits of either case are read, two for each byte, and a text that is read is the written form
of its bytes up to the case of its letters. A text of an even number of bytes is refused exactly
if one of them is no digit; this covers texts with characters beyond ASCII, whose bytes are no
digits.
-/

namespace PocketLedger.Hex

/-! ## Digits -/

/-- The byte is an ASCII figure or an ASCII letter from a to f, of either case. -/
def IsDigit (byte : UInt8) : Prop :=
  (0x30 ≤ byte ∧ byte ≤ 0x39) ∨ (0x61 ≤ byte ∧ byte ≤ 0x66) ∨ (0x41 ≤ byte ∧ byte ≤ 0x46)

instance (byte : UInt8) : Decidable (IsDigit byte) := inferInstanceAs (Decidable (_ ∨ _ ∨ _))

/-- Digits have values, and nothing else has. -/
theorem isSome_value?_iff (byte : UInt8) : (value? byte).isSome ↔ IsDigit byte := by
  unfold value? IsDigit
  split
  next figure => simp [figure]
  next noFigure =>
    split
    next lower => simp [lower]
    next noLower => split <;> simp_all

/-- A byte with a value is a character, which is the digit of that value in lower case. -/
theorem char_of_value? {byte value : UInt8} (isValue : value? byte = some value) :
    value.toNat < 16 ∧ String.utf8EncodeChar (Char.ofUInt8 byte) = [byte] ∧
      (Char.ofUInt8 byte).toLower = digit value := by
  have all : ∀ number < 256, ∀ value ∈ value? (UInt8.ofNat number), value.toNat < 16 ∧
      String.utf8EncodeChar (Char.ofUInt8 (UInt8.ofNat number)) = [UInt8.ofNat number] ∧
        (Char.ofUInt8 (UInt8.ofNat number)).toLower = digit value := by decide +kernel
  have this := all byte.toNat byte.toNat_lt value
  rw [UInt8.ofNat_toNat] at this
  exact this isValue

/-- Only ASCII capitals change in lower case, so nothing beyond ASCII becomes a digit. -/
theorem toNat_lt_of_toLower {character : Char} {value : UInt8} (small : value.toNat < 16)
    (lower : character.toLower = digit value) : character.toNat < 128 := by
  have digitAscii : ∀ number < 16, (digit (UInt8.ofNat number)).toNat < 128 := by decide
  have bound := digitAscii value.toNat small
  rw [UInt8.ofNat_toNat, ← lower] at bound
  by_cases upper : character.val ≥ 'A'.val ∧ character.val ≤ 'Z'.val
  · have atMost : character.toNat ≤ 90 := UInt32.le_iff_toNat_le.mp upper.2
    omega
  · have same : character.toLower = character := dif_neg upper
    rwa [same] at bound

/-- A character that is a digit in lower case is one byte, which has the value of the digit. -/
theorem value?_of_toLower {character : Char} {value : UInt8} (small : value.toNat < 16)
    (lower : character.toLower = digit value) :
    ∃ byte, String.utf8EncodeChar character = [byte] ∧ value? byte = some value := by
  have all : ∀ number < 128, ∀ value < 16,
      (Char.ofNat number).toLower = digit (UInt8.ofNat value) →
        String.utf8EncodeChar (Char.ofNat number) = [UInt8.ofNat number] ∧
          value? (UInt8.ofNat number) = some (UInt8.ofNat value) := by decide +kernel
  have this := all character.toNat (toNat_lt_of_toLower small lower) value.toNat small
  rw [Char.ofNat_toNat, UInt8.ofNat_toNat] at this
  exact ⟨_, this lower⟩

/-- Two values below sixteen are the halves of the byte that they make up. -/
theorem halves_of_joined {high low : UInt8} (highSmall : high.toNat < 16)
    (lowSmall : low.toNat < 16) :
    ((high <<< 4) ||| low) >>> 4 = high ∧ ((high <<< 4) ||| low) &&& 0x0f = low := by
  have all : ∀ high < 16, ∀ low < 16,
      ((UInt8.ofNat high <<< 4) ||| UInt8.ofNat low) >>> 4 = UInt8.ofNat high ∧
        ((UInt8.ofNat high <<< 4) ||| UInt8.ofNat low) &&& 0x0f = UInt8.ofNat low := by
    decide +kernel
  simpa using all high.toNat highSmall low.toNat lowSmall

/-! ## Pairs of digits -/

/-- A pair of digits is read exactly if both have values and the rest is read. -/
theorem decodePairs_cons_cons_eq_ok_iff (position : Nat) (first second : UInt8)
    (rest bytes : Bytes) :
    decodePairs position (first :: second :: rest) = .ok bytes ↔
      ∃ high low others, value? first = some high ∧ value? second = some low ∧
        decodePairs (position + 2) rest = .ok others ∧ ((high <<< 4) ||| low) :: others = bytes := by
  rw [decodePairs]
  simp only [valueAt]
  cases value? first with
  | none => simp [bind, Except.bind]
  | some high =>
    cases value? second with
    | none => simp [bind, Except.bind]
    | some low =>
      cases decodePairs (position + 2) rest <;> simp [bind, Except.bind, pure, Except.pure]

/-- An even number of bytes is read exactly if all of them are digits. -/
theorem exists_decodePairs_iff {position : Nat} {written : Bytes}
    (even : written.length % 2 = 0) :
    (∃ bytes, decodePairs position written = .ok bytes) ↔ ∀ byte ∈ written, IsDigit byte := by
  induction position, written using decodePairs.induct with
  | case1 => simp [decodePairs]
  | case2 => simp at even
  | case3 position first second rest ih =>
    have others := ih (by rw [List.length_cons, List.length_cons] at even; omega)
    rw [List.forall_mem_cons, List.forall_mem_cons, ← others, ← isSome_value?_iff,
      ← isSome_value?_iff, Option.isSome_iff_exists, Option.isSome_iff_exists]
    simp only [decodePairs_cons_cons_eq_ok_iff]
    constructor
    · rintro ⟨_, high, low, bytes, isHigh, isLow, decoded, _⟩
      exact ⟨⟨high, isHigh⟩, ⟨low, isLow⟩, bytes, decoded⟩
    · rintro ⟨⟨high, isHigh⟩, ⟨low, isLow⟩, bytes, decoded⟩
      exact ⟨_, high, low, bytes, isHigh, isLow, decoded, rfl⟩

/-- Two bytes are read for each byte. -/
theorem length_of_decodePairs {position : Nat} {written bytes : Bytes}
    (decoded : decodePairs position written = .ok bytes) : written.length = 2 * bytes.length := by
  induction position, written using decodePairs.induct generalizing bytes with
  | case1 =>
    obtain rfl : [] = bytes := by simpa [decodePairs] using decoded
    rfl
  | case2 => simp [decodePairs] at decoded
  | case3 position first second rest ih =>
    obtain ⟨high, low, others, _, _, restDecoded, rfl⟩ :=
      (decodePairs_cons_cons_eq_ok_iff ..).mp decoded
    simp only [List.length_cons, ih restDecoded]
    omega

/-- What is read is written in digits of either case. -/
theorem exists_text_of_decodePairs {position : Nat} {written bytes : Bytes}
    (decoded : decodePairs position written = .ok bytes) :
    ∃ text : List Char, text.flatMap String.utf8EncodeChar = written ∧
      text.map Char.toLower = encode bytes := by
  induction position, written using decodePairs.induct generalizing bytes with
  | case1 =>
    obtain rfl : [] = bytes := by simpa [decodePairs] using decoded
    exact ⟨[], rfl, rfl⟩
  | case2 => simp [decodePairs] at decoded
  | case3 position first second rest ih =>
    obtain ⟨high, low, others, isHigh, isLow, restDecoded, rfl⟩ :=
      (decodePairs_cons_cons_eq_ok_iff ..).mp decoded
    obtain ⟨text, restWritten, restLower⟩ := ih restDecoded
    obtain ⟨highSmall, firstWritten, firstLower⟩ := char_of_value? isHigh
    obtain ⟨lowSmall, secondWritten, secondLower⟩ := char_of_value? isLow
    obtain ⟨highHalf, lowHalf⟩ := halves_of_joined highSmall lowSmall
    refine ⟨Char.ofUInt8 first :: Char.ofUInt8 second :: text, ?_, ?_⟩
    · simp [firstWritten, secondWritten, restWritten]
    · simp [firstLower, secondLower, restLower, encode_cons, highHalf, lowHalf]

/-- Digits of either case are read. -/
theorem decodePairs_of_toLower {text : List Char} {bytes : Bytes}
    (lower : text.map Char.toLower = encode bytes) (position : Nat) :
    decodePairs position (text.flatMap String.utf8EncodeChar) = .ok bytes := by
  induction bytes generalizing text position with
  | nil =>
    obtain rfl : text = [] := by simpa [encode] using lower
    rfl
  | cons byte bytes ih =>
    have bound := byte.toNat_lt
    rw [encode_cons] at lower
    obtain ⟨first, text, rfl, firstLower, lower⟩ := List.map_eq_cons_iff.mp lower
    obtain ⟨second, text, rfl, secondLower, lower⟩ := List.map_eq_cons_iff.mp lower
    obtain ⟨high, highWritten, isHigh⟩ :=
      value?_of_toLower (by rw [toNat_highHalf]; omega) firstLower
    obtain ⟨low, lowWritten, isLow⟩ :=
      value?_of_toLower (by rw [toNat_lowHalf]; omega) secondLower
    simp only [List.flatMap_cons, highWritten, lowWritten, List.singleton_append]
    exact (decodePairs_cons_cons_eq_ok_iff ..).mpr
      ⟨_, _, bytes, isHigh, isLow, ih lower (position + 2), by rw [halves]⟩

/-! ## Texts -/

theorem decode_eq_ok_iff (written bytes : Bytes) :
    decode written = .ok bytes ↔ decodePairs 0 written = .ok bytes := by
  unfold decode
  split
  next odd =>
    refine iff_of_false (by simp) ?_
    intro decoded
    have length := length_of_decodePairs decoded
    omega
  next => rfl

/-- The characters of a text in lower case. -/
theorem toList_toLower (written : String) :
    written.toLower.toList = written.toList.map Char.toLower :=
  String.toList_map

/-- A text is read exactly if it is, in lower case, the written form of the bytes. -/
theorem decode_ofText_eq_ok_iff (written : String) (bytes : Bytes) :
    decode (Bytes.ofText written) = .ok bytes ↔ written.toLower = text bytes := by
  have lower : written.toLower = text bytes ↔ written.toList.map Char.toLower = encode bytes := by
    rw [← String.toList_inj, toList_toLower, text, String.toList_ofList]
  rw [decode_eq_ok_iff, lower]
  constructor
  · intro decoded
    obtain ⟨characters, encoded, isLower⟩ := exists_text_of_decodePairs decoded
    rw [← Bytes.ofText_ofList] at encoded
    rwa [← Bytes.ofText_injective encoded, String.toList_ofList]
  · intro isLower
    have decoded := decodePairs_of_toLower isLower 0
    rwa [← Bytes.ofText_ofList, String.ofList_toList] at decoded

/-- The written form of bytes is in lower case. -/
theorem toLower_text (bytes : Bytes) : (text bytes).toLower = text bytes := by
  rw [← decode_ofText_eq_ok_iff, decode_eq_ok_iff, text, Bytes.ofText_ofList]
  exact (encode_bytes bytes).2 0

/-- Bytes are read exactly if their number is even and all of them are digits. -/
theorem exists_decode_eq_ok_iff (written : Bytes) :
    (∃ bytes, decode written = .ok bytes) ↔
      written.length % 2 = 0 ∧ ∀ byte ∈ written, IsDigit byte := by
  simp only [decode_eq_ok_iff]
  constructor
  · rintro ⟨bytes, decoded⟩
    have even : written.length % 2 = 0 := by
      have length := length_of_decodePairs decoded
      omega
    exact ⟨even, (exists_decodePairs_iff even).mp ⟨bytes, decoded⟩⟩
  · rintro ⟨even, digits⟩
    exact (exists_decodePairs_iff even).mpr digits

end PocketLedger.Hex
