import PocketLedger.Text.Quoted

/-!
# Byte strings and their hexadecimal text

Bytes are written as two lowercase digits each. Reading works on the bytes of a text, takes
digits of either case, and names the first byte that is not a digit.
-/

namespace PocketLedger

/-- A byte string. -/
abbrev Bytes := List UInt8

/-- The UTF-8 bytes of a text. -/
def Bytes.ofText (text : String) : Bytes := text.toUTF8.data.toList

namespace Hex

/-- The lowercase digit of a value below sixteen. -/
def digit (value : UInt8) : Char :=
  if value < 10 then Char.ofUInt8 (value + 0x30) else Char.ofUInt8 (value + 0x57)

/-- Two digits for each byte, the high half first. -/
def encode (bytes : Bytes) : List Char :=
  bytes.flatMap fun (byte : UInt8) => [digit (byte >>> 4), digit (byte &&& 0x0f)]

/-- The hexadecimal text of a byte string. -/
def text (bytes : Bytes) : String := String.ofList (encode bytes)

/-- The value of a digit of either case, given as an ASCII byte. -/
def value? (byte : UInt8) : Option UInt8 :=
  if 0x30 ≤ byte ∧ byte ≤ 0x39 then some (byte - 0x30)
  else if 0x61 ≤ byte ∧ byte ≤ 0x66 then some (byte - 0x57)
  else if 0x41 ≤ byte ∧ byte ≤ 0x46 then some (byte - 0x37)
  else none

/-- Why a text is not the hexadecimal form of the wanted bytes. -/
inductive Error where
  /-- The text has an odd number of bytes. -/
  | oddLength
  /-- The text has an even number of bytes, but not twice the wanted number. -/
  | wrongLength
  /-- The first byte that is not a digit, with its position. -/
  | badDigit (byte : UInt8) (position : Nat)
  deriving DecidableEq, Repr

/-- The wording of an error. A bad byte is shown as the character of that number. -/
def Error.message : Error → String
  | .oddLength => "Odd number of digits"
  | .wrongLength => "Invalid string length"
  | .badDigit byte position =>
    "Invalid character " ++ String.ofList (Text.quotedChar (Char.ofUInt8 byte)) ++
      " at position " ++ toString position

/-- The value of the digit at a position, or the error that names it. -/
def valueAt (position : Nat) (byte : UInt8) : Except Error UInt8 :=
  match value? byte with
  | some value => .ok value
  | none => .error (.badDigit byte position)

/-- Read digits in pairs, from the given position on. -/
def decodePairs (position : Nat) : Bytes → Except Error Bytes
  | [] => .ok []
  | [_] => .error .oddLength
  | high :: low :: rest => do
    let high ← valueAt position high
    let low ← valueAt (position + 1) low
    let rest ← decodePairs (position + 2) rest
    return ((high <<< 4) ||| low) :: rest

/-- Read the bytes that a text of hexadecimal digits stands for. -/
def decode (text : Bytes) : Except Error Bytes :=
  if text.length % 2 ≠ 0 then .error .oddLength else decodePairs 0 text

/-- Read exactly `count` bytes. The parity of the text is tested first, then its length,
then its digits. -/
def decodeExactly (count : Nat) (text : Bytes) : Except Error Bytes :=
  if text.length % 2 ≠ 0 then .error .oddLength
  else if text.length / 2 ≠ count then .error .wrongLength
  else decodePairs 0 text

end Hex
end PocketLedger
