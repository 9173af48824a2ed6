import PocketLedger.Decimal.Shortest

/-!
# Layout of decimals

Which digits a number has and how they are laid out are two questions. This module answers
the second: a decimal is written with its point in place, or with an exponent where that
would take too many zeros.
-/

namespace PocketLedger.Decimal

/-- When a decimal is written with its point in place. -/
structure Layout where
  /-- The least position of the point, counted from the first digit. -/
  leastPoint : Int
  /-- The greatest position of the point. -/
  greatestPoint : Int

/-- The digits with the point in place. A whole number is followed by `.0`. -/
def positional (digits : List Char) (point : Int) : List Char :=
  if point ≤ 0 then '0' :: '.' :: (List.replicate (-point).toNat '0' ++ digits)
  else if point < digits.length then
    digits.take point.toNat ++ ('.' :: digits.drop point.toNat)
  else digits ++ (List.replicate (point.toNat - digits.length) '0' ++ ['.', '0'])

/-- The digits with the point after the first one, and a signed exponent. -/
def withExponent (digits : List Char) (point : Int) : List Char :=
  let exponent := point - 1
  let fraction := if digits.length ≤ 1 then [] else '.' :: digits.drop 1
  let sign := if exponent < 0 then '-' else '+'
  digits.take 1 ++ fraction ++ ('e' :: sign :: Nat.toDigits 10 exponent.natAbs)

/-- A decimal in the given layout. -/
def Layout.write (layout : Layout) (decimal : Numeral) : List Char :=
  let digits := Nat.toDigits 10 decimal.digits
  let point : Int := digits.length + decimal.power
  if layout.leastPoint ≤ point ∧ point ≤ layout.greatestPoint then positional digits point
  else withExponent digits point

end PocketLedger.Decimal
