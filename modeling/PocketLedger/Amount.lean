/-!
# Amounts

An amount is a 64-bit word. Sums of amounts are taken from left to right and refused as soon
as a partial sum does not fit; they never wrap around.
-/

namespace PocketLedger

/-- Why amounts have no sum. -/
inductive AmountError where
  /-- The exact sum needs more than 64 bits. -/
  | overflow
  deriving DecidableEq, Repr

/-- The wording of an amount error. -/
def AmountError.message : AmountError → String
  | .overflow => "attempt to add with overflow"

namespace Amount

/-- The sum of two amounts. -/
def add (left right : UInt64) : Except AmountError UInt64 :=
  if left.toNat + right.toNat < UInt64.size then .ok (left + right) else .error .overflow

/-- The sum of amounts on top of a total. -/
def sumFrom : (total : UInt64) → List UInt64 → Except AmountError UInt64
  | total, [] => .ok total
  | total, amount :: rest =>
    match add total amount with
    | .error error => .error error
    | .ok total => sumFrom total rest

/-- The sum of amounts. -/
def sum (amounts : List UInt64) : Except AmountError UInt64 := sumFrom 0 amounts

end Amount
end PocketLedger
