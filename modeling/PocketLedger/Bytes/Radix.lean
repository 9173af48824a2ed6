import PocketLedger.Bytes.Hex

/-!
# Numbers as digits

A list of digits, the most significant first, stands for a number in a given base. Numbers
are written either with as many digits as they need or with a fixed number of bytes.
-/

namespace PocketLedger.Radix

/-- The number that digits stand for, after the number `start` has been read. -/
def value (base : Nat) (digits : List Nat) (start : Nat) : Nat :=
  digits.foldl (fun total digit => base * total + digit) start

/-- The digits of a number in front of digits already found, for a base of at least two. Zero
has no digits. -/
def digitsBefore (base : Nat) (twoLe : 2 ≤ base) (number : Nat) (found : List Nat) : List Nat :=
  if zero : number = 0 then found
  else
    have := Nat.div_lt_self (Nat.pos_of_ne_zero zero) twoLe
    digitsBefore base twoLe (number / base) (number % base :: found)
termination_by number

/-- The digits of a number, without leading zeros. -/
def digits (base : Nat) (twoLe : 2 ≤ base) (number : Nat) : List Nat :=
  digitsBefore base twoLe number []

/-- The number that bytes stand for, the most significant first. -/
def ofBytes (bytes : Bytes) : Nat :=
  value 256 (bytes.map fun byte => byte.toNat) 0

/-- The lowest `count` bytes of a number, the most significant first. -/
def toBytes : (count : Nat) → (number : Nat) → Bytes
  | 0, _ => []
  | count + 1, number => toBytes count (number / 256) ++ [(number % 256).toUInt8]

@[simp]
theorem length_toBytes (count number : Nat) : (toBytes count number).length = count := by
  induction count generalizing number with
  | zero => rfl
  | succ count ih => simp [toBytes, ih]

end PocketLedger.Radix
