import PocketLedger.Decimal.Binary64

/-!
# The fewest decimal digits that identify a value

A value of binary floating point is told from its neighbours by every decimal that lies in
the interval of numbers that round to it. Of those decimals the ones with the fewest digits
are taken, and of these the nearest.
-/

namespace PocketLedger.Decimal

/-- The decimal `digits · 10 ^ power`. -/
structure Numeral where
  digits : Nat
  power : Int
  deriving DecidableEq, Repr

/-- The numbers that round to a value: in units of `2 ^ (exponent - 2)`, the value is four
times the mantissa, and the ends belong to the interval if the mantissa is even. -/
structure RoundingInterval where
  low : Nat
  middle : Nat
  high : Nat
  closed : Bool
  exponent : Int

/-- The rounding interval of a nonzero value. Below a power of two the neighbour is only half
as far away. -/
def Binary64.interval (value : Binary64) : RoundingInterval where
  low := 4 * value.mantissa -
    (if value.mantissa = 1 <<< 52 ∧ Binary64.lowest < value.exponent then 1 else 2)
  middle := 4 * value.mantissa
  high := 4 * value.mantissa + 2
  closed := value.mantissa % 2 = 0
  exponent := value.exponent - 2

/-- The numbers `middle · 2 ^ exponent` and `10 ^ power`, brought to a common denominator, as
factors of `middle` and of a multiple of the power. -/
def commonScale (exponent power : Int) : Nat × Nat :=
  (Nat.pow 10 (-power).toNat <<< exponent.toNat, Nat.pow 10 power.toNat <<< (-exponent).toNat)

namespace RoundingInterval

/-- Whether `candidate · 10 ^ power` rounds to the value. -/
def holds (interval : RoundingInterval) (power : Int) (candidate : Nat) : Bool :=
  let (binary, decimal) := commonScale interval.exponent power
  let point := candidate * decimal
  let low := interval.low * binary
  let high := interval.high * binary
  if interval.closed then low ≤ point && point ≤ high else low < point && point < high

/-- The multiple of `10 ^ power` that rounds to the value and is nearest to it, if there is
one. Of two that are equally near, the even one is taken. -/
def nearest? (interval : RoundingInterval) (power : Int) : Option Nat :=
  let (binary, decimal) := commonScale interval.exponent power
  let middle := interval.middle * binary
  let below := middle / decimal
  let above := below + 1
  match interval.holds power below, interval.holds power above with
  | true, true =>
    let toBelow := middle - below * decimal
    let toAbove := above * decimal - middle
    if toBelow < toAbove ∨ (toBelow = toAbove ∧ below % 2 = 0) then some below else some above
  | true, false => some below
  | false, true => some above
  | false, false => none

end RoundingInterval

/-- The number of digits before the decimal point of `numerator / denominator`; for a
quotient below one, minus the number of zeros after the point. -/
def pointPosition (numerator denominator : Nat) : Int :=
  if denominator ≤ numerator then ((Nat.toDigits 10 (numerator / denominator)).length : Int)
  else
    -- The quotient is at least `10 ^ -log2 denominator - 1`.
    let zeros := (List.range (Nat.log2 denominator + 2)).find? fun zeros =>
      denominator ≤ numerator * Nat.pow 10 (zeros + 1)
    Int.negOfNat (zeros.getD 0)

/-- The decimal `digits · 10 ^ power` without zeros at its end. -/
def trimmed (digits : Nat) (power : Int) : Numeral :=
  if h : 0 < digits ∧ digits % 10 = 0 then
    have := Nat.div_lt_self h.1 (by decide : 1 < 10)
    trimmed (digits / 10) (power + 1)
  else ⟨digits, power⟩
termination_by digits

/-- The shortest decimal that rounds to a nonzero value. Seventeen digits always suffice. -/
def Binary64.shortest (value : Binary64) : Numeral :=
  let interval := value.interval
  let (numerator, denominator) := value.ratio
  let position := pointPosition numerator denominator
  let found := (List.range 17).findSome? fun (extra : Nat) =>
    let power := position - (extra + 1 : Int)
    (interval.nearest? power).map fun digits => trimmed digits power
  found.getD ⟨0, 0⟩

end PocketLedger.Decimal
