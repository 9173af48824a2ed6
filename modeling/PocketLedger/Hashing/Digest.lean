import PocketLedger.Bytes.Hex
import PocketLedger.Text.Outline

/-!
# Digests

A digest is 32 bytes, shown as 64 lowercase hexadecimal digits. Digests are ordered byte by
byte from the first, which makes them keys of ordered maps.
-/

namespace PocketLedger

/-- A string of exactly 32 bytes. -/
structure Digest where
  /-- The bytes, the most significant first. -/
  bytes : Bytes
  /-- A digest has 32 bytes. -/
  length_eq : bytes.length = 32
  deriving DecidableEq

namespace Digest

/-- The digest of 32 zero bytes, which no block or transaction is expected to have. -/
def zero : Digest := ⟨List.replicate 32 0, rfl⟩

instance : Inhabited Digest := ⟨zero⟩

/-- Whether every byte is zero. -/
def isZero (digest : Digest) : Bool := digest == zero

/-- The digest with the given bytes, if there are 32. -/
def ofBytes? (bytes : Bytes) : Option Digest :=
  if h : bytes.length = 32 then some ⟨bytes, h⟩ else none

/-- The 64 digits of a digest. -/
def hex (digest : Digest) : List Char := Hex.encode digest.bytes

/-- The text of a digest. -/
def text (digest : Digest) : String := String.ofList digest.hex

/-- Read a digest from the bytes of a text of 64 digits, of either case. -/
def ofHex (text : Bytes) : Except Hex.Error Digest :=
  match Hex.decodeExactly 32 text with
  | .error error => .error error
  | .ok bytes =>
    if h : bytes.length = 32 then .ok ⟨bytes, h⟩ else .error .wrongLength

/-- Read a digest from a text. -/
def ofText (text : String) : Except Hex.Error Digest := ofHex (Bytes.ofText text)

instance : Text.Outline Digest := ⟨fun digest => Text.applied "Hash" digest.hex⟩

theorem ext_bytes {left right : Digest} (h : left.bytes = right.bytes) : left = right := by
  cases left; cases right; simpa using h

instance : Ord Digest := ⟨fun left right => compare left.bytes right.bytes⟩

theorem compare_eq (left right : Digest) : compare left right = compare left.bytes right.bytes :=
  rfl

instance : Std.TransOrd Digest where
  eq_swap {left right} :=
    (Std.OrientedCmp.eq_swap : compare left.bytes right.bytes = (compare right.bytes left.bytes).swap)
  isLE_trans {first _ third} h h' :=
    (Std.TransCmp.isLE_trans h h' : (compare first.bytes third.bytes).isLE)

instance : Std.LawfulEqOrd Digest where
  compare_self {digest} := (Std.ReflCmp.compare_self : compare digest.bytes digest.bytes = .eq)
  eq_of_compare h := ext_bytes (Std.LawfulEqCmp.eq_of_compare h)

end Digest
end PocketLedger
