import PocketLedger.Bytes.Radix
import PocketLedger.Hashing.Sha256

/-!
# Base58 text with a checksum

A byte string is read as one number and written in base 58, without the characters that are
easily confused. Leading zero bytes, which the number forgets, are kept as ones. Payloads
are followed by the first four bytes of their double SHA-256.
-/

namespace PocketLedger.Base58

/-- The digits in ascending order. -/
def alphabet : List Char :=
  "123456789ABCDEFGHJKLMNPQRSTUVWXYZabcdefghijkmnopqrstuvwxyz".toList

/-- The character of a digit below 58. -/
def digit (value : Nat) : Char := alphabet.getD value '1'

/-- The Base58 digits of a byte string. -/
def encode (bytes : Bytes) : List Char :=
  let zeros := bytes.takeWhile (· == 0)
  zeros.map (fun _ => '1') ++
    (Radix.digits 58 (by decide) (Radix.ofBytes bytes)).map digit

/-- The first four bytes of the double SHA-256 of a payload. -/
def checksum (payload : Bytes) : Bytes := (Hashing.doubleSha256 payload).bytes.take 4

/-- The Base58 text of a payload and its checksum. -/
def checked (payload : Bytes) : String :=
  String.ofList (encode (payload ++ checksum payload))

end PocketLedger.Base58
