import PocketLedger.Keyring.Basic
import PocketLedger.Proofs.Hexadecimal
import PocketLedger.Proofs.Radix

/-!
# Secret keys and their digits

A secret key is imported exactly from the texts that are its exported form up to the case of
letters. Any other text is refused, and the error tells whether it is hexadecimal.
-/

namespace PocketLedger

namespace SecretKey

/-- The bytes are 32 and their value is that of a key. -/
def InRange (bytes : Bytes) : Prop :=
  bytes.length = 32 ∧ 1 ≤ Radix.ofBytes bytes ∧ Radix.ofBytes bytes ≤ Curve.order - 1

/-- A key is its scalar. -/
theorem ext_scalar {left right : SecretKey} (same : left.scalar = right.scalar) : left = right := by
  cases left; cases right
  simpa using same

theorem ofNat?_eq_some_iff (scalar : Nat) (key : SecretKey) :
    ofNat? scalar = some key ↔ scalar = key.scalar := by
  unfold ofNat?
  split
  next inRange =>
    rw [Option.some.injEq]
    exact ⟨fun same => congrArg SecretKey.scalar same, fun same => ext_scalar same⟩
  next outside =>
    refine iff_of_false (by simp) ?_
    rintro rfl
    exact outside ⟨key.pos, key.lt_order⟩

/-- The bytes of a key have its scalar as their value. -/
theorem ofBytes_bytes (key : SecretKey) : Radix.ofBytes key.bytes = key.scalar := by
  have room : Curve.order < 256 ^ 32 := by decide
  rw [bytes, Radix.ofBytes_toBytes, Nat.mod_eq_of_lt (key.lt_order.trans room)]

/-- A key is read from its own bytes and from no others. -/
theorem ofBytes?_eq_some_iff (written : Bytes) (key : SecretKey) :
    ofBytes? written = some key ↔ written = key.bytes := by
  unfold ofBytes?
  split
  next length =>
    rw [ofNat?_eq_some_iff]
    constructor
    · intro value
      rw [bytes, ← value, ← length, Radix.toBytes_ofBytes]
    · intro same
      rw [same, ofBytes_bytes]
  next length =>
    refine iff_of_false (by simp) ?_
    intro same
    exact length (same ▸ Radix.length_toBytes 32 key.scalar)

/-- Bytes are no key exactly if they are out of range. -/
theorem ofBytes?_eq_none_iff (written : Bytes) : ofBytes? written = none ↔ ¬ InRange written := by
  unfold ofBytes? ofNat?
  split
  next length =>
    split
    next inside =>
      refine iff_of_false (by simp) (not_not_intro ⟨length, inside.1, ?_⟩)
      omega
    next outside =>
      refine iff_of_true rfl ?_
      rintro ⟨_, atLeast, atMost⟩
      have order : 0 < Curve.order := by decide
      exact outside ⟨atLeast, by omega⟩
  next length => exact iff_of_true rfl fun inside => length inside.1

/-- A key is imported exactly from what is its exported form in lower case. -/
theorem ofHex_eq_ok_iff (text : String) (key : SecretKey) :
    ofHex text = .ok key ↔ key.hex = text.toLower := by
  rw [hex, eq_comm (a := Hex.text _), ← Hex.decode_ofText_eq_ok_iff]
  unfold ofHex
  cases decoded : Hex.decode (Bytes.ofText text) with
  | error error => simp
  | ok written =>
    rw [Except.ok.injEq, ← ofBytes?_eq_some_iff]
    cases found : ofBytes? written <;> simp [found]

/-- A key is imported from its exported form. -/
theorem ofHex_hex (key : SecretKey) : ofHex key.hex = .ok key :=
  (ofHex_eq_ok_iff key.hex key).mpr (Hex.toLower_text key.bytes).symm

/-- A text is refused as not hexadecimal if it has an odd number of bytes or a byte that is no
digit. -/
theorem ofHex_eq_notHex_iff (text : String) :
    ofHex text = .error .notHex ↔ (Bytes.ofText text).length % 2 = 1 ∨
      ∃ byte ∈ Bytes.ofText text, ¬ Hex.IsDigit byte := by
  have readable := Hex.exists_decode_eq_ok_iff (Bytes.ofText text)
  have refused : ((Bytes.ofText text).length % 2 = 1 ∨
      ∃ byte ∈ Bytes.ofText text, ¬ Hex.IsDigit byte) ↔
        ¬ ∃ bytes, Hex.decode (Bytes.ofText text) = .ok bytes := by
    rw [readable, Decidable.not_and_iff_not_or_not]
    simp
  rw [refused]
  unfold ofHex
  cases decoded : Hex.decode (Bytes.ofText text) with
  | error error => simp
  | ok written => cases found : ofBytes? written <;> simp [found]

/-- A hexadecimal text is refused as out of range if its bytes are no key. -/
theorem ofHex_eq_outOfRange_iff (text : String) :
    ofHex text = .error .outOfRange ↔
      ∃ bytes, text.toLower = Hex.text bytes ∧ ¬ InRange bytes := by
  simp only [← Hex.decode_ofText_eq_ok_iff, ← ofBytes?_eq_none_iff]
  unfold ofHex
  cases decoded : Hex.decode (Bytes.ofText text) with
  | error error => simp
  | ok written => cases found : ofBytes? written <;> simp [found]

end SecretKey

/-- The exported form of a key is imported as the address of the key. -/
theorem Keyring.importKey_hex (keyring : Keyring) (name : String) (key : SecretKey) :
    keyring.importKey name key.hex = keyring.addOwned name (.ofKey keyring.version key) := by
  rw [importKey, SecretKey.ofHex_hex]

end PocketLedger
