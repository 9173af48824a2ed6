import PocketLedger.Decimal.Layout
import PocketLedger.Json.Scan

/-!
# JSON numbers

A number without point and exponent that fits a signed or an unsigned 64-bit word is an
integer. Every other number is rounded to binary floating point.
-/

namespace PocketLedger.Json

open Decimal (Binary64 Layout)
open Text (Glyph)

/-- A JSON number. -/
inductive Number where
  /-- An integer from `-2 ^ 63` to `2 ^ 64 - 1`. -/
  | integer (value : Int)
  /-- A sign and a magnitude; zero has both signs. -/
  | binary (negative : Bool) (magnitude : Binary64)
  deriving DecidableEq, Repr

/-- Take up digits behind a significand while the result fits 64 bits. Gives the significand
and the digits that did not fit. -/
def takeFitting : (significand : Nat) → List Nat → Nat × List Nat
  | significand, [] => (significand, [])
  | significand, digit :: rest =>
    if 10 * significand + digit < UInt64.size then takeFitting (10 * significand + digit) rest
    else (significand, digit :: rest)

/-- The number that a literal stands for; `none` if it is too large. Of the digits before the
point those that do not fit count as zeros, and of the digits after the point those that do
not fit are dropped. -/
def Literal.number? (literal : Literal) : Option Number :=
  let (significand, zeros) := takeFitting 0 literal.whole
  if zeros = [] ∧ literal.fraction = [] ∧ literal.exponent = none then
    if literal.negative = false then some (.integer significand)
    else if significand = 0 ∨ UInt64.size / 2 < significand then
      (Binary64.ofDecimal significand 0).map (.binary true)
    else some (.integer (-significand))
  else
    let (significand, dropped) := takeFitting significand literal.fraction
    let places : Int := literal.fraction.length - dropped.length
    (Binary64.ofDecimal significand (zeros.length - places + literal.exponent.getD 0)).map
      (.binary literal.negative)

/-- A number, read after its sign. -/
def number (negative : Bool) (glyphs : List Glyph) : Scanned Number :=
  (literal .truncated negative glyphs).andThen fun literal rest =>
    match literal.number? with
    | none => .error .malformed
    | some number => .ok (number, rest)

/-- Magnitudes from `10 ^ -5` up to, and without, `10 ^ 16` are written with their point in
place. -/
def numberLayout : Layout := ⟨-4, 16⟩

/-- The text of an integer. -/
def writeInteger : Int → List Char
  | .ofNat value => Nat.toDigits 10 value
  | .negSucc value => '-' :: Nat.toDigits 10 (value + 1)

/-- The text of a number. -/
def Number.write : Number → List Char
  | .integer value => writeInteger value
  | .binary negative magnitude =>
    let digits :=
      if magnitude.mantissa = 0 then ['0', '.', '0'] else numberLayout.write magnitude.shortest
    if negative then '-' :: digits else digits

end PocketLedger.Json
