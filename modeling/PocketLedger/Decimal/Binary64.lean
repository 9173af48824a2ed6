/-!
# Magnitudes of 64-bit binary floating point

A magnitude is `mantissa · 2 ^ exponent` with a mantissa below `2 ^ 53` and an exponent of at
least `-1074`. The mantissa is at least `2 ^ 52` unless the exponent is the lowest, so each
value has one representation. Rounding is exact arithmetic on natural numbers.
-/

namespace PocketLedger.Decimal

/-- A finite nonnegative value of 64-bit binary floating point. -/
structure Binary64 where
  /-- The mantissa, below `2 ^ 53`. -/
  mantissa : Nat
  /-- The exponent of two, from `-1074` to `971`. -/
  exponent : Int
  deriving DecidableEq, Repr

/-- The quotient of two numbers, rounded to the nearest whole number; a half goes to the even
neighbour. -/
def divideToEven (numerator denominator : Nat) : Nat :=
  let quotient := numerator / denominator
  let twice := 2 * (numerator % denominator)
  if twice < denominator ∨ (twice = denominator ∧ quotient % 2 = 0) then quotient else quotient + 1

namespace Binary64

/-- The lowest exponent of two. -/
def lowest : Int := -1074

/-- The highest exponent of two. -/
def highest : Int := 971

/-- The value zero. -/
def zero : Binary64 := ⟨0, lowest⟩

/-- The value as a numerator and a denominator. -/
def ratio (value : Binary64) : Nat × Nat :=
  if 0 ≤ value.exponent then (value.mantissa <<< value.exponent.toNat, 1)
  else (value.mantissa, 1 <<< (-value.exponent).toNat)

/-- The greatest exponent of two whose power is at most a nonzero quotient. -/
def binaryOrder (numerator denominator : Nat) : Int :=
  let guess : Int := (Nat.log2 numerator : Int) - (Nat.log2 denominator : Int)
  let reached :=
    if 0 ≤ guess then denominator <<< guess.toNat ≤ numerator
    else denominator ≤ numerator <<< (-guess).toNat
  if reached then guess else guess - 1

/-- The value nearest to a quotient, ties to the even mantissa; `none` if it is too large. -/
def round (numerator denominator : Nat) : Option Binary64 :=
  if numerator = 0 then some zero
  else
    let exponent := max (binaryOrder numerator denominator - 52) lowest
    let mantissa :=
      if 0 ≤ exponent then divideToEven numerator (denominator <<< exponent.toNat)
      else divideToEven (numerator <<< (-exponent).toNat) denominator
    let value : Binary64 :=
      if mantissa = 1 <<< 53 then ⟨1 <<< 52, exponent + 1⟩ else ⟨mantissa, exponent⟩
    if value.exponent ≤ highest then some value else none

/-- The rounded product of two values. -/
def times (left right : Binary64) : Option Binary64 :=
  let (n₁, d₁) := left.ratio
  let (n₂, d₂) := right.ratio
  round (n₁ * n₂) (d₁ * d₂)

/-- The rounded quotient of two values. -/
def dividedBy (left right : Binary64) : Option Binary64 :=
  let (n₁, d₁) := left.ratio
  let (n₂, d₂) := right.ratio
  round (n₁ * d₂) (d₁ * n₂)

/-- The largest power of ten that is a value. -/
def topPower : Nat := 308

/-- The value nearest to a power of ten. -/
def tenTo (power : Nat) : Option Binary64 := round (Nat.pow 10 power) 1

/-- A value divided by a divisor again and again, until it has vanished. -/
def dividedRepeatedly (divisor : Binary64) : (times : Nat) → Binary64 → Option Binary64
  | 0, value => some value
  | times + 1, value =>
    if value.mantissa = 0 then some value
    else (value.dividedBy divisor).bind (dividedRepeatedly divisor times)

/-- A value times a power of ten, the value and the power each rounded before they are
joined. Below `10 ^ -308`, as many divisions by `10 ^ 308` come first as leave a power in
range. -/
def shift (value : Binary64) (power : Int) : Option Binary64 :=
  if 0 ≤ power then
    if power.natAbs ≤ topPower then (tenTo power.natAbs).bind value.times
    else if value.mantissa = 0 then some value
    else none
  else do
    let steps := (power.natAbs - 1) / topPower
    let top ← tenTo topPower
    let value ← dividedRepeatedly top steps value
    let factor ← tenTo (power.natAbs - steps * topPower)
    value.dividedBy factor

/-- The value that a significand and a power of ten stand for, if it is not too large. The
significand is rounded first, then the product. -/
def ofDecimal (significand : Nat) (power : Int) : Option Binary64 := do
  (← round significand 1).shift power

end Binary64
end PocketLedger.Decimal
