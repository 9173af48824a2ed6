import PocketLedger.Hashing.Sha256
import PocketLedger.Proofs.Outline

/-!
# What a digest shows

The digits of a digest determine it and are always 64, so a digest is read back from the front
of any text. The digest of a text determines the text up to a collision of the hash function:
`Digest.Collision` names the two messages, and nothing is assumed about other messages.
-/

namespace PocketLedger

/-! ## Hexadecimal digits -/

namespace Hex

/-- The digit of a value below sixteen is that of the number. -/
theorem digit_eq_digitChar {value : UInt8} (small : value.toNat < 16) :
    digit value = Nat.digitChar value.toNat := by
  have all : ∀ number < 16, digit (UInt8.ofNat number) = Nat.digitChar number := by decide
  have same := all value.toNat small
  rwa [UInt8.ofNat_toNat] at same

/-- Different values below 16 have different digits. -/
theorem digit_inj {left right : UInt8} (leftSmall : left.toNat < 16)
    (rightSmall : right.toNat < 16) (same : digit left = digit right) :
    left.toNat = right.toNat := by
  rw [digit_eq_digitChar leftSmall, digit_eq_digitChar rightSmall] at same
  exact Text.digitChar_inj leftSmall rightSmall same

theorem toNat_highHalf (byte : UInt8) : (byte >>> 4).toNat = byte.toNat / 16 := by
  simp [Nat.shiftRight_eq_div_pow]

theorem toNat_lowHalf (byte : UInt8) : (byte &&& 0x0f).toNat = byte.toNat % 16 := by
  rw [UInt8.toNat_and]
  exact Nat.and_two_pow_sub_one_eq_mod byte.toNat 4

/-- A byte is determined by its two digits. -/
theorem byte_eq_of_digits {left right : UInt8} (high : digit (left >>> 4) = digit (right >>> 4))
    (low : digit (left &&& 0x0f) = digit (right &&& 0x0f)) : left = right := by
  have leftLt := left.toNat_lt
  have rightLt := right.toNat_lt
  have highSame := digit_inj (by rw [toNat_highHalf]; omega) (by rw [toNat_highHalf]; omega) high
  have lowSame := digit_inj (by rw [toNat_lowHalf]; omega) (by rw [toNat_lowHalf]; omega) low
  rw [toNat_highHalf, toNat_highHalf] at highSame
  rw [toNat_lowHalf, toNat_lowHalf] at lowSame
  apply UInt8.toNat_inj.mp
  omega

theorem encode_cons (byte : UInt8) (bytes : Bytes) :
    encode (byte :: bytes) = digit (byte >>> 4) :: digit (byte &&& 0x0f) :: encode bytes := rfl

/-- Each byte is encoded as two digits. -/
@[simp]
theorem length_encode (bytes : Bytes) : (encode bytes).length = 2 * bytes.length := by
  induction bytes with
  | nil => rfl
  | cons byte bytes ih =>
    rw [encode_cons, List.length_cons, List.length_cons, ih, List.length_cons]
    omega

/-- Bytes are determined by their digits. -/
theorem encode_injective {left right : Bytes} (same : encode left = encode right) :
    left = right := by
  induction left generalizing right with
  | nil =>
    cases right with
    | nil => rfl
    | cons => exact absurd same (by simp [encode])
  | cons byte left ih =>
    cases right with
    | nil => exact absurd same (by simp [encode])
    | cons byte' right =>
      rw [encode_cons, encode_cons, List.cons.injEq, List.cons.injEq] at same
      obtain ⟨high, low, others⟩ := same
      rw [byte_eq_of_digits high low, ih others]

/-! ## Reading digits back -/

/-- A digit is one byte, which has its value. -/
theorem valueAt_digit {value : UInt8} (small : value.toNat < 16) :
    ∃ byte, String.utf8EncodeChar (digit value) = [byte] ∧
      ∀ position, valueAt position byte = .ok value := by
  have all : ∀ number < 16, (String.utf8EncodeChar (digit (UInt8.ofNat number))).map value? =
      [some (UInt8.ofNat number)] := by decide
  have values := all value.toNat small
  rw [UInt8.ofNat_toNat] at values
  obtain ⟨byte, encoded, isValue⟩ := List.map_eq_singleton_iff.mp values
  exact ⟨byte, encoded, fun position => by rw [valueAt, isValue]⟩

/-- A byte is made up of its two halves. -/
theorem halves (byte : UInt8) : (byte >>> 4) <<< 4 ||| (byte &&& 0x0f) = byte := by
  have bound := byte.toNat_lt
  have four : (4 : UInt8).toNat % 8 = 4 := rfl
  apply UInt8.toNat_inj.mp
  rw [UInt8.toNat_or, UInt8.toNat_shiftLeft, toNat_highHalf, toNat_lowHalf, four,
    Nat.mod_eq_of_lt (by omega), ← Nat.shiftLeft_add_eq_or_of_lt (by omega)]
  omega

/-- The bytes of the digits of bytes: two for each byte, from which they are read back. -/
theorem encode_bytes (bytes : Bytes) :
    ((encode bytes).flatMap String.utf8EncodeChar).length = 2 * bytes.length ∧
      ∀ position,
        decodePairs position ((encode bytes).flatMap String.utf8EncodeChar) = .ok bytes := by
  induction bytes with
  | nil => exact ⟨rfl, fun _ => rfl⟩
  | cons byte bytes ih =>
    obtain ⟨length, decoded⟩ := ih
    have bound := byte.toNat_lt
    obtain ⟨high, highEncoded, highValue⟩ := @valueAt_digit (byte >>> 4)
      (by rw [toNat_highHalf]; omega)
    obtain ⟨low, lowEncoded, lowValue⟩ := @valueAt_digit (byte &&& 0x0f)
      (by rw [toNat_lowHalf]; omega)
    rw [encode_cons, List.flatMap_cons, List.flatMap_cons, highEncoded, lowEncoded]
    constructor
    · simp only [List.length_append, List.length_cons, List.length_nil, length]
      omega
    · intro position
      rw [List.singleton_append, List.singleton_append, decodePairs, highValue, lowValue, decoded]
      simp only [bind, Except.bind, pure, Except.pure, halves]

end Hex

/-! ## Messages -/

/-- A text is determined by its bytes. -/
theorem Bytes.ofText_injective {left right : String}
    (same : Bytes.ofText left = Bytes.ofText right) : left = right := by
  apply String.toByteArray_inj.mp
  apply ByteArray.ext
  exact Array.toList_inj.mp same

/-- The bytes of a text are those of its characters in order. -/
theorem Bytes.ofText_ofList (text : List Char) :
    Bytes.ofText (String.ofList text) = text.flatMap String.utf8EncodeChar := by
  rw [Bytes.ofText, String.toUTF8_eq_toByteArray, String.toByteArray_ofList, List.utf8Encode,
    List.data_toByteArray]

namespace Digest

/-- A digest has 64 digits. -/
@[simp]
theorem length_hex (digest : Digest) : digest.hex.length = 64 := by
  rw [hex, Hex.length_encode, digest.length_eq]

/-- A digest is read back from its text. -/
theorem ofText_text (digest : Digest) : ofText digest.text = .ok digest := by
  obtain ⟨length, decoded⟩ := Hex.encode_bytes digest.bytes
  rw [digest.length_eq] at length
  rw [ofText, text, Bytes.ofText_ofList, ofHex, hex, Hex.decodeExactly, length, decoded]
  exact dif_pos digest.length_eq

/-- A digest is read back from the front of any text. -/
theorem hex_append_inj {left right : Digest} {leftRest rightRest : List Char}
    (same : left.hex ++ leftRest = right.hex ++ rightRest) :
    left = right ∧ leftRest = rightRest := by
  obtain ⟨digits, rests⟩ := List.append_inj same (by simp)
  exact ⟨ext_bytes (Hex.encode_injective digits), rests⟩

instance : Text.LawfulOutline Digest where
  starts digest := ⟨'H', _, rfl, by decide⟩
  forces left right := by
    have digits : Text.Forces left.hex right.hex (left = right) :=
      fun _ _ _ _ same => hex_append_inj same
    exact digits.applied "Hash"

/-- The bytes that a text is hashed as. -/
def message (content : List Char) : Bytes := Bytes.ofText (String.ofList content)

/-- Different texts are hashed as different messages. -/
theorem message_injective {left right : List Char} (same : message left = message right) :
    left = right :=
  String.ofList_injective (Bytes.ofText_injective same)

/-- Two different messages of one digest. -/
def Collision (left right : Bytes) : Prop :=
  left ≠ right ∧ Hashing.doubleSha256 left = Hashing.doubleSha256 right

/-- Texts have one digest exactly if they are equal or collide. -/
theorem ofContent_eq_iff (left right : List Char) :
    ofContent left = ofContent right ↔
      left = right ∨ Collision (message left) (message right) := by
  constructor
  · intro same
    by_cases equal : left = right
    · exact .inl equal
    · exact .inr ⟨fun messages => equal (message_injective messages), same⟩
  · rintro (rfl | ⟨_, same⟩)
    · rfl
    · exact same

end Digest
end PocketLedger
