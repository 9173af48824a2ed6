import PocketLedger.Proofs.Hexadecimal

/-!
# The texts of digests

A text is read as a digest exactly if it has 64 characters and all of them are hexadecimal digits,
of either case. Every other text is refused for one reason: an odd number of bytes comes before a
wrong number of bytes, and that before the first byte that is no digit. Characters beyond ASCII
count with all their bytes and are refused at their first one.
-/

namespace PocketLedger

namespace Hex

/-! ## The first byte that is no digit -/

/-- The byte at this position is no digit, and all bytes before it are digits. -/
def IsFirstBad (written : Bytes) (byte : UInt8) (position : Nat) : Prop :=
  written[position]? = some byte ∧ ¬ IsDigit byte ∧
    ∀ earlier ∈ written.take position, IsDigit earlier

/-- The error names the first byte that is no digit, with its position in a text that has these
bytes from the start on. -/
def NamesFirstBad (start : Nat) (written : Bytes) (error : Error) : Prop :=
  ∃ byte offset, error = .badDigit byte (start + offset) ∧ IsFirstBad written byte offset

section FirstBad

variable {start : Nat} {first : UInt8} {rest : Bytes} {error : Error}

/-- Without bytes there is nothing to name. -/
theorem not_namesFirstBad_nil : ¬ NamesFirstBad start [] error := by
  rintro ⟨_, _, _, found, _⟩
  simp at found

/-- If the first byte is no digit, it is the one to name. -/
theorem namesFirstBad_cons_of_not_isDigit (bad : ¬ IsDigit first) :
    NamesFirstBad start (first :: rest) error ↔ error = .badDigit first start := by
  constructor
  · rintro ⟨byte, offset, rfl, found, _, digits⟩
    cases offset with
    | zero =>
      obtain rfl : first = byte := by simpa using found
      rfl
    | succ offset => exact absurd (digits first (by simp)) bad
  · rintro rfl
    exact ⟨first, 0, rfl, rfl, bad, by simp⟩

/-- Behind a digit the first byte that is no digit is that of the rest. -/
theorem namesFirstBad_cons_of_isDigit (good : IsDigit first) :
    NamesFirstBad start (first :: rest) error ↔ NamesFirstBad (start + 1) rest error := by
  constructor
  · rintro ⟨byte, offset, rfl, found, bad, digits⟩
    cases offset with
    | zero =>
      obtain rfl : first = byte := by simpa using found
      exact absurd good bad
    | succ offset =>
      rw [List.take_succ_cons, List.forall_mem_cons] at digits
      exact ⟨byte, offset, by congr 1; omega, found, bad, digits.2⟩
  · rintro ⟨byte, offset, rfl, found, bad, digits⟩
    refine ⟨byte, offset + 1, by congr 1; omega, found, bad, ?_⟩
    rw [List.take_succ_cons, List.forall_mem_cons]
    exact ⟨good, digits⟩

/-- From the start of a text, the position that is named is that of the byte. -/
theorem namesFirstBad_badDigit_iff (written : Bytes) (byte : UInt8) (position : Nat) :
    NamesFirstBad 0 written (.badDigit byte position) ↔ IsFirstBad written byte position := by
  constructor
  · rintro ⟨_, offset, same, bad⟩
    obtain ⟨rfl, rfl⟩ := Error.badDigit.inj same
    rwa [Nat.zero_add]
  · intro bad
    exact ⟨byte, position, by rw [Nat.zero_add], bad⟩

end FirstBad

/-- A byte that is no digit is named with its position. -/
theorem valueAt_of_not_isDigit {byte : UInt8} (bad : ¬ IsDigit byte) (position : Nat) :
    valueAt position byte = .error (.badDigit byte position) := by
  rw [← isSome_value?_iff, Option.not_isSome_iff_eq_none] at bad
  rw [valueAt, bad]

/-- A digit has a value, wherever it stands. -/
theorem exists_valueAt_of_isDigit {byte : UInt8} (good : IsDigit byte) (position : Nat) :
    ∃ value, valueAt position byte = .ok value := by
  obtain ⟨value, isValue⟩ := Option.isSome_iff_exists.mp ((isSome_value?_iff byte).mpr good)
  exact ⟨value, by rw [valueAt, isValue]⟩

/-- What is wrong with an even number of bytes is the first that is no digit. -/
theorem decodePairs_eq_error_iff {start : Nat} {written : Bytes} (even : written.length % 2 = 0)
    (error : Error) :
    decodePairs start written = .error error ↔ NamesFirstBad start written error := by
  induction start, written using decodePairs.induct with
  | case1 => exact iff_of_false (by simp [decodePairs]) not_namesFirstBad_nil
  | case2 => simp at even
  | case3 start first second rest ih =>
    have others := ih (by rw [List.length_cons, List.length_cons] at even; omega)
    rw [decodePairs]
    by_cases good : IsDigit first
    · obtain ⟨high, isHigh⟩ := exists_valueAt_of_isDigit good start
      rw [namesFirstBad_cons_of_isDigit good, isHigh]
      by_cases goodToo : IsDigit second
      · obtain ⟨low, isLow⟩ := exists_valueAt_of_isDigit goodToo (start + 1)
        rw [namesFirstBad_cons_of_isDigit goodToo, isLow, ← others]
        cases decodePairs (start + 2) rest <;> simp [bind, Except.bind, pure, Except.pure]
      · rw [namesFirstBad_cons_of_not_isDigit goodToo, valueAt_of_not_isDigit goodToo]
        simp [bind, Except.bind, eq_comm]
    · rw [namesFirstBad_cons_of_not_isDigit good, valueAt_of_not_isDigit good]
      simp [bind, Except.bind, eq_comm]

/-! ## A given number of bytes -/

/-- Asking for a number of bytes admits no others, and changes nothing of what they are. -/
theorem decodeExactly_eq_ok_iff (count : Nat) (written bytes : Bytes) :
    decodeExactly count written = .ok bytes ↔
      decode written = .ok bytes ∧ bytes.length = count := by
  unfold decodeExactly decode
  by_cases odd : written.length % 2 ≠ 0
  · simp [odd]
  · rw [if_neg odd, if_neg odd]
    constructor
    · intro decoded
      split at decoded
      next => simp at decoded
      next length =>
        have double := length_of_decodePairs decoded
        exact ⟨decoded, by omega⟩
    · rintro ⟨decoded, rfl⟩
      have double := length_of_decodePairs decoded
      rwa [if_neg (by omega)]

/-- The parity of the text is tested first, then its length, then its digits. -/
theorem decodeExactly_eq_error_iff (count : Nat) (written : Bytes) (error : Error) :
    decodeExactly count written = .error error ↔
      (written.length % 2 = 1 ∧ error = .oddLength) ∨
        (written.length % 2 = 0 ∧ written.length ≠ 2 * count ∧ error = .wrongLength) ∨
          (written.length = 2 * count ∧ NamesFirstBad 0 written error) := by
  unfold decodeExactly
  split
  next odd =>
    have isOdd : written.length % 2 = 1 := by omega
    have notCount : written.length ≠ 2 * count := by omega
    simp [isOdd, notCount, eq_comm]
  next even =>
    have isEven : written.length % 2 = 0 := by omega
    split
    next wrong =>
      have notCount : written.length ≠ 2 * count := by omega
      simp [isEven, notCount, eq_comm]
    next right =>
      have isCount : written.length = 2 * count := by omega
      rw [decodePairs_eq_error_iff isEven]
      simp [isCount]

/-! ## Digits as characters -/

/-- The character is a figure or a letter from a to f, of either case. -/
def IsDigitChar (character : Char) : Prop :=
  ('0' ≤ character ∧ character ≤ '9') ∨ ('a' ≤ character ∧ character ≤ 'f') ∨
    ('A' ≤ character ∧ character ≤ 'F')

instance (character : Char) : Decidable (IsDigitChar character) :=
  inferInstanceAs (Decidable (_ ∨ _ ∨ _))

/-- A digit is one byte, which is a digit. -/
theorem utf8_of_isDigitChar {character : Char} (isDigit : IsDigitChar character) :
    ∃ byte, String.utf8EncodeChar character = [byte] ∧ IsDigit byte := by
  have ascii : character.toNat < 128 := by
    rcases isDigit with ⟨_, atMost⟩ | ⟨_, atMost⟩ | ⟨_, atMost⟩ <;>
      exact Nat.lt_of_le_of_lt (UInt32.le_iff_toNat_le.mp atMost) (by decide)
  have all : ∀ number < 128, IsDigitChar (Char.ofNat number) →
      String.utf8EncodeChar (Char.ofNat number) = [UInt8.ofNat number] ∧
        IsDigit (UInt8.ofNat number) := by decide +kernel
  have this := all character.toNat ascii
  rw [Char.ofNat_toNat] at this
  exact ⟨_, this isDigit⟩

/-- A character that is a digit in lower case is a digit of either case. -/
theorem isDigitChar_of_toLower {character : Char} {value : UInt8} (small : value.toNat < 16)
    (lower : character.toLower = digit value) : IsDigitChar character := by
  have all : ∀ number < 128, ∀ value < 16,
      (Char.ofNat number).toLower = digit (UInt8.ofNat value) →
        IsDigitChar (Char.ofNat number) := by decide +kernel
  have this := all character.toNat (toNat_lt_of_toLower small lower) value.toNat small
  rw [Char.ofNat_toNat, UInt8.ofNat_toNat] at this
  exact this lower

/-- Every character of encoded bytes is the digit of a value below 16. -/
theorem exists_digit_of_mem_encode {bytes : Bytes} {character : Char}
    (mem : character ∈ encode bytes) : ∃ value, value.toNat < 16 ∧ character = digit value := by
  obtain ⟨byte, _, half⟩ := List.mem_flatMap.mp mem
  have bound := byte.toNat_lt
  simp only [List.mem_cons, List.not_mem_nil, or_false] at half
  rcases half with rfl | rfl
  · exact ⟨_, by rw [toNat_highHalf]; omega, rfl⟩
  · exact ⟨_, by rw [toNat_lowHalf]; omega, rfl⟩

/-- Texts of digits have one byte for each character, and all of the bytes are digits. -/
theorem bytes_of_isDigitChar {text : List Char}
    (digits : ∀ character ∈ text, IsDigitChar character) :
    (text.flatMap String.utf8EncodeChar).length = text.length ∧
      ∀ byte ∈ text.flatMap String.utf8EncodeChar, IsDigit byte := by
  induction text with
  | nil => exact ⟨rfl, nofun⟩
  | cons character text ih =>
    obtain ⟨first, others⟩ := List.forall_mem_cons.mp digits
    obtain ⟨length, all⟩ := ih others
    obtain ⟨byte, encoded, isDigit⟩ := utf8_of_isDigitChar first
    rw [List.flatMap_cons, encoded, List.singleton_append]
    exact ⟨by rw [List.length_cons, List.length_cons, length],
      List.forall_mem_cons.mpr ⟨isDigit, all⟩⟩

end Hex

/-- A text has as many bytes as its characters take in UTF-8. -/
theorem Bytes.length_ofText (text : String) : (Bytes.ofText text).length = text.utf8ByteSize := rfl

namespace Digest

/-! ## Reading a digest -/

/-- A digest is read from what decodes to its bytes. -/
theorem ofHex_eq_ok_iff (written : Bytes) (digest : Digest) :
    ofHex written = .ok digest ↔ Hex.decode written = .ok digest.bytes := by
  have decoded : Hex.decode written = .ok digest.bytes ↔
      Hex.decodeExactly 32 written = .ok digest.bytes := by
    rw [Hex.decodeExactly_eq_ok_iff, and_iff_left digest.length_eq]
  rw [decoded, ofHex]
  cases found : Hex.decodeExactly 32 written with
  | error error => simp
  | ok bytes =>
    have length := ((Hex.decodeExactly_eq_ok_iff 32 written bytes).mp found).2
    simp only [dif_pos length, Except.ok.injEq]
    exact ⟨congrArg Digest.bytes, fun same => ext_bytes same⟩

/-- A digest is refused for the same reason as its 32 bytes. -/
theorem ofHex_eq_error_iff (written : Bytes) (error : Hex.Error) :
    ofHex written = .error error ↔ Hex.decodeExactly 32 written = .error error := by
  rw [ofHex]
  cases found : Hex.decodeExactly 32 written with
  | error error => simp
  | ok bytes =>
    have length := ((Hex.decodeExactly_eq_ok_iff 32 written bytes).mp found).2
    simp [dif_pos length]

/-- A text is read as the digest that it shows in lower case. -/
theorem ofText_eq_ok_iff (written : String) (digest : Digest) :
    ofText written = .ok digest ↔ digest.text = written.toLower := by
  rw [ofText, ofHex_eq_ok_iff, Hex.decode_ofText_eq_ok_iff, eq_comm]
  rfl

/-- The digits of a digest, of either case, are read. -/
theorem exists_ofText_eq_ok_iff (written : String) :
    (∃ digest, ofText written = .ok digest) ↔
      written.length = 64 ∧ ∀ character ∈ written.toList, Hex.IsDigitChar character := by
  constructor
  · rintro ⟨digest, read⟩
    have lower : digest.hex = written.toList.map Char.toLower := by
      rw [← Hex.toList_toLower, ← (ofText_eq_ok_iff written digest).mp read, text,
        String.toList_ofList]
    constructor
    · rw [← String.length_toList, ← List.length_map, ← lower, length_hex]
    · intro character mem
      have isLower : character.toLower ∈ digest.hex := lower ▸ List.mem_map_of_mem mem
      obtain ⟨value, small, isDigit⟩ := Hex.exists_digit_of_mem_encode isLower
      exact Hex.isDigitChar_of_toLower small isDigit
  · rintro ⟨length, digits⟩
    have encoded : Bytes.ofText written = written.toList.flatMap String.utf8EncodeChar := by
      rw [← Bytes.ofText_ofList, String.ofList_toList]
    obtain ⟨sameLength, allDigits⟩ := Hex.bytes_of_isDigitChar digits
    rw [← encoded, String.length_toList, length] at sameLength
    rw [← encoded] at allDigits
    obtain ⟨bytes, decoded⟩ := (Hex.exists_decode_eq_ok_iff _).mpr ⟨by rw [sameLength], allDigits⟩
    have double := Hex.length_of_decodePairs ((Hex.decode_eq_ok_iff _ _).mp decoded)
    exact ⟨⟨bytes, by omega⟩, (ofHex_eq_ok_iff _ _).mpr decoded⟩

/-- A text that is no digest is refused for its first fault. -/
theorem ofText_eq_error_iff (written : String) (error : Hex.Error) :
    ofText written = .error error ↔
      (written.utf8ByteSize % 2 = 1 ∧ error = .oddLength) ∨
        (written.utf8ByteSize % 2 = 0 ∧ written.utf8ByteSize ≠ 64 ∧ error = .wrongLength) ∨
          (written.utf8ByteSize = 64 ∧ Hex.NamesFirstBad 0 (Bytes.ofText written) error) := by
  rw [ofText, ofHex_eq_error_iff, Hex.decodeExactly_eq_error_iff, Bytes.length_ofText]

/-- Digests are read from exactly the texts of 64 digits of either case, each from what it shows
in lower case, and every other text is refused for its parity, its length or its first byte that
is no digit, in this order. -/
theorem texts_read_exactly :
    (∀ digest : Digest, ofText digest.text = .ok digest) ∧
    (∀ written : String,
      ((∃ digest, ofText written = .ok digest) ↔
        written.length = 64 ∧ ∀ character ∈ written.toList, Hex.IsDigitChar character) ∧
      (∀ digest, ofText written = .ok digest ↔ digest.text = written.toLower) ∧
      (ofText written = .error .oddLength ↔ written.utf8ByteSize % 2 = 1) ∧
      (ofText written = .error .wrongLength ↔
        written.utf8ByteSize % 2 = 0 ∧ written.utf8ByteSize ≠ 64) ∧
      ∀ byte position, ofText written = .error (.badDigit byte position) ↔
        written.utf8ByteSize = 64 ∧ Hex.IsFirstBad (Bytes.ofText written) byte position) ∧
    ∀ (left right : String) (first second : Digest), ofText left = .ok first →
      ofText right = .ok second → (first = second ↔ left.toLower = right.toLower) := by
  refine ⟨ofText_text, ?_, ?_⟩
  · intro written
    refine ⟨exists_ofText_eq_ok_iff written, ofText_eq_ok_iff written, ?_, ?_, ?_⟩
    · rw [ofText_eq_error_iff]
      simp [Hex.NamesFirstBad]
    · rw [ofText_eq_error_iff]
      simp [Hex.NamesFirstBad]
    · intro byte position
      rw [ofText_eq_error_iff, Hex.namesFirstBad_badDigit_iff]
      simp
  · intro left right first second readLeft readRight
    rw [ofText_eq_ok_iff] at readLeft readRight
    rw [← readLeft, ← readRight]
    constructor
    · exact congrArg text
    · intro same
      have digits : first.hex = second.hex := String.ofList_injective same
      exact ext_bytes (Hex.encode_injective digits)

/-- Two texts that differ in case only show one digest. An accented letter counts as two bytes and
is refused at the first of them, unless the number of bytes is wrong already. -/
theorem texts_read_exactly_of_mixed_case :
    let left := String.ofList (List.replicate 32 'A' ++ List.replicate 32 'f')
    let right := String.ofList (List.replicate 32 'a' ++ List.replicate 32 'F')
    (∃ digest, ofText left = .ok digest ∧ ofText right = .ok digest) ∧
      ofText (String.ofList (List.replicate 62 '0' ++ ['\u00e9'])) = .error (.badDigit 0xc3 62) ∧
      ofText "\u00e9" = .error .wrongLength ∧ ofText "\u00e90" = .error .oddLength := by
  intro left right
  obtain ⟨_, texts, sameDigest⟩ := texts_read_exactly
  have isDigits : ∀ first second, Hex.IsDigitChar first → Hex.IsDigitChar second →
      ∃ digest, ofText (String.ofList (List.replicate 32 first ++ List.replicate 32 second)) =
        .ok digest := by
    intro first second isFirst isSecond
    refine (texts _).1.mpr ⟨by simp, ?_⟩
    intro character mem
    rw [String.toList_ofList, List.mem_append, List.mem_replicate, List.mem_replicate] at mem
    rcases mem with ⟨_, rfl⟩ | ⟨_, rfl⟩ <;> assumption
  obtain ⟨first, readLeft⟩ := isDigits 'A' 'f' (by decide) (by decide)
  obtain ⟨second, readRight⟩ := isDigits 'a' 'F' (by decide) (by decide)
  have sameLower : left.toLower = right.toLower := by
    rw [← String.toList_inj, Hex.toList_toLower, Hex.toList_toLower, String.toList_ofList,
      String.toList_ofList]
    decide
  obtain rfl := (sameDigest left right first second readLeft readRight).mpr sameLower
  have bytes : Bytes.ofText (String.ofList (List.replicate 62 '0' ++ ['\u00e9'])) =
      List.replicate 62 0x30 ++ [0xc3, 0xa9] := by
    rw [Bytes.ofText_ofList]
    decide
  refine ⟨⟨first, readLeft, readRight⟩, (texts _).2.2.2.2 _ _ |>.mpr ?_, ?_, ?_⟩
  · rw [← Bytes.length_ofText, bytes]
    refine ⟨rfl, rfl, by decide, ?_⟩
    intro earlier mem
    rw [List.take_left' List.length_replicate] at mem
    rw [(List.mem_replicate.mp mem).2]
    decide
  · exact (texts _).2.2.2.1.mpr (by decide)
  · exact (texts _).2.2.1.mpr (by decide)

end Digest
end PocketLedger
