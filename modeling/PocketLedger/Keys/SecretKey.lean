import PocketLedger.Hashing.Ripemd160
import PocketLedger.Keys.Curve

/-!
# Secret keys

A secret key is a scalar from one up to, and without, the order of the curve's base point. It
is exported as 64 hexadecimal digits, and its public key follows from it.
-/

namespace PocketLedger

/-- Why a text is not a secret key. -/
inductive KeyError where
  /-- The text is not hexadecimal. -/
  | notHex
  /-- The bytes are not 32, or their value is zero or too large. -/
  | outOfRange
  deriving DecidableEq, Repr

/-- The wording of a key error. -/
def KeyError.message : KeyError → String
  | .notHex => "Invalid private key"
  | .outOfRange => "Secp256k1 error: malformed or out-of-range secret key"

/-- A scalar that can serve as a secret key. -/
structure SecretKey where
  /-- The scalar. -/
  scalar : Nat
  /-- Zero is no key. -/
  pos : 0 < scalar
  /-- Keys stay below the order of the base point. -/
  lt_order : scalar < Curve.order
  deriving DecidableEq

namespace SecretKey

/-- The key of the given scalar, if it is in range. -/
def ofNat? (scalar : Nat) : Option SecretKey :=
  if h : 0 < scalar ∧ scalar < Curve.order then some ⟨scalar, h.1, h.2⟩ else none

/-- The key of 32 bytes whose value is in range. -/
def ofBytes? (bytes : Bytes) : Option SecretKey :=
  if bytes.length = 32 then ofNat? (Radix.ofBytes bytes) else none

/-- The 32 bytes of a key. -/
def bytes (key : SecretKey) : Bytes := Radix.toBytes 32 key.scalar

/-- The 64 digits that a key is exported as. -/
def hex (key : SecretKey) : String := Hex.text key.bytes

/-- Import a key from its digits, of either case. -/
def ofHex (text : String) : Except KeyError SecretKey :=
  match Hex.decode (Bytes.ofText text) with
  | .error _ => .error .notHex
  | .ok bytes =>
    match ofBytes? bytes with
    | none => .error .outOfRange
    | some key => .ok key

/-- The compressed public key, of 33 bytes. -/
def publicKey (key : SecretKey) : Bytes := (Curve.Point.multiple key.scalar).compressed

/-- The short hash that addresses are made from. -/
def publicKeyHash (key : SecretKey) : Hash160 := Hashing.hash160 key.publicKey

/-- The outline of a key pair shows the public key only. -/
instance : Text.Outline SecretKey where
  outline key :=
    "KeyPair ".toList ++ ('{' :: ' ' ::
      (Text.field "public_key" (Text.outline (Hex.text key.publicKey)) ++ ", .. ".toList ++ ['}']))

end SecretKey
end PocketLedger
