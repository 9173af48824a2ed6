import Mathlib.Data.Nat.Digits.Lemmas
import PocketLedger.Bytes.Radix

/-!
# Numbers and their digits

The digits of a number are those of the standard library, the most significant first, so a
number and its digits determine each other and the first digit is not zero. Bytes determine
the number that they stand for; the number forgets leading zero bytes and nothing else.
-/

namespace PocketLedger.Radix

/-! ## Digits -/

/-- Reading digits from the front is reading their reverse from the lowest. -/
theorem value_zero (base : Nat) (digits : List Nat) :
    value base digits 0 = Nat.ofDigits base digits.reverse := by
  simp [value, Nat.ofDigits_eq_foldr, Nat.add_comm]

/-- The digits are collected in front of those that were found. -/
theorem digitsBefore_eq (base : Nat) (twoLe : 2 ≤ base) (number : Nat) (found : List Nat) :
    digitsBefore base twoLe number found = (Nat.digits base number).reverse ++ found := by
  fun_induction digitsBefore base twoLe number found with
  | case1 => simp
  | case2 number found notZero _ ih =>
    simp [ih, Nat.digits_def' twoLe (Nat.pos_of_ne_zero notZero)]

/-- The digits are those of the library, the highest first. -/
theorem digits_eq (base : Nat) (twoLe : 2 ≤ base) (number : Nat) :
    digits base twoLe number = (Nat.digits base number).reverse := by
  simp [digits, digitsBefore_eq]

/-- A number is told by its digits. -/
theorem digits_injective {base : Nat} {twoLe : 2 ≤ base} {left right : Nat}
    (same : digits base twoLe left = digits base twoLe right) : left = right := by
  simp only [digits_eq, List.reverse_inj] at same
  exact Nat.digits.injective base same

/-- Every digit is below the base. -/
theorem lt_of_mem_digits {base : Nat} {twoLe : 2 ≤ base} {number digit : Nat}
    (mem : digit ∈ digits base twoLe number) : digit < base := by
  rw [digits_eq, List.mem_reverse] at mem
  exact Nat.digits_lt_base twoLe mem

/-- A number is not written with a leading zero. -/
theorem head?_digits_ne_zero (base : Nat) (twoLe : 2 ≤ base) (number : Nat) :
    (digits base twoLe number).head? ≠ some 0 := by
  intro leads
  rw [digits_eq, List.head?_reverse] at leads
  obtain ⟨notEmpty, last⟩ := List.mem_getLast?_eq_getLast leads
  have notZero : number ≠ 0 := Nat.digits_ne_nil_iff_ne_zero.mp notEmpty
  exact Nat.getLast_digit_ne_zero base notZero last.symm

/-! ## Bytes -/

/-- Bytes are digits to the base 256, the highest first. -/
theorem ofBytes_eq (bytes : Bytes) :
    ofBytes bytes = Nat.ofDigits 256 (bytes.map fun byte => byte.toNat).reverse :=
  value_zero 256 _

/-- Leading zero bytes are all that the number of bytes does not tell. -/
theorem digits_ofBytes (twoLe : 2 ≤ 256) (bytes : Bytes) :
    digits 256 twoLe (ofBytes bytes) =
      (bytes.dropWhile (· == 0)).map fun byte => byte.toNat := by
  induction bytes with
  | nil => simp [ofBytes_eq, digits_eq]
  | cons byte bytes ih =>
    -- A leading zero does not change the number; from the first other byte on, bytes are digits.
    by_cases zero : byte = 0
    · simpa [zero, ofBytes, value] using ih
    · have small : ∀ digit ∈ ((byte :: bytes).map fun byte => byte.toNat).reverse, digit < 256 := by
        intro digit mem
        obtain ⟨other, _, rfl⟩ := List.mem_map.mp (List.mem_reverse.mp mem)
        exact other.toNat_lt
      have leads : byte.toNat ≠ 0 := fun none => zero (UInt8.toNat_inj.mp none)
      rw [ofBytes_eq, digits_eq, Nat.digits_ofDigits 256 twoLe _ small (by simpa using leads)]
      simp [zero]

/-- Bytes are determined by their number and by how many zeros they start with. -/
theorem ofBytes_injective {left right : Bytes}
    (zeros : (left.takeWhile (· == 0)).length = (right.takeWhile (· == 0)).length)
    (same : ofBytes left = ofBytes right) : left = right := by
  have leadingZeros : ∀ bytes : Bytes, bytes.takeWhile (· == 0) =
      List.replicate (bytes.takeWhile (· == 0)).length 0 := by
    intro bytes
    refine List.eq_replicate_iff.mpr ⟨rfl, ?_⟩
    intro byte mem
    simpa using List.all_eq_true.mp List.all_takeWhile byte mem
  have others : left.dropWhile (· == 0) = right.dropWhile (· == 0) := by
    have digits := congrArg (digits 256 (by decide)) same
    rw [digits_ofBytes, digits_ofBytes] at digits
    exact List.map_injective_iff.mpr (fun _ _ => UInt8.toNat_inj.mp) digits
  rw [← List.takeWhile_append_dropWhile (p := (· == 0)) (l := left), leadingZeros left, zeros,
    ← leadingZeros right, others, List.takeWhile_append_dropWhile]

/-- A further byte is the lowest digit. -/
theorem ofBytes_concat (bytes : Bytes) (byte : UInt8) :
    ofBytes (bytes ++ [byte]) = 256 * ofBytes bytes + byte.toNat := by
  simp [ofBytes, value]

/-- Bytes are written back from their number. -/
theorem toBytes_ofBytes (bytes : Bytes) : toBytes bytes.length (ofBytes bytes) = bytes := by
  induction bytes using List.reverseRecOn with
  | nil => rfl
  | append_singleton bytes byte ih =>
    have bound := byte.toNat_lt
    have above : (256 * ofBytes bytes + byte.toNat) / 256 = ofBytes bytes := by omega
    have lowest : (256 * ofBytes bytes + byte.toNat) % 256 = byte.toNat := by omega
    simp [toBytes, ofBytes_concat, above, lowest, ih]

/-- The number of the lowest bytes of a number. -/
theorem ofBytes_toBytes (count number : Nat) :
    ofBytes (toBytes count number) = number % 256 ^ count := by
  induction count generalizing number with
  | zero => simp [toBytes, ofBytes, value, Nat.mod_one]
  | succ count ih =>
    have lowest : (number % 256).toUInt8.toNat = number % 256 := by simp
    rw [toBytes, ofBytes_concat, ih, lowest, pow_succ', Nat.mod_mul, Nat.add_comm]

end PocketLedger.Radix
