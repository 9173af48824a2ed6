import Mathlib.Data.List.Forall2
import PocketLedger.Proofs.TransactionIdentity

/-!
# When transactions do the same

Equivalence compares two transactions pair by pair, after it has compared their lengths. This
finds every difference in what they pay and spend, at whatever position: transactions are
equivalent exactly if they agree in version, in their payments and in the outpoints they spend.
How the outpoints are unlocked, and from when on, makes no difference.
-/

namespace PocketLedger

/-- Lists agree in some part of their items exactly if they have one length and agree in that
part pair by pair. -/
theorem map_eq_map_iff_zip {α β : Type} (part : α → β) (left right : List α) :
    left.map part = right.map part ↔ left.length = right.length ∧
      ∀ item item', (item, item') ∈ left.zip right → part item = part item' := by
  calc left.map part = right.map part
      ↔ List.Forall₂ (· = ·) (left.map part) (right.map part) := by rw [List.forall₂_eq_eq_eq]
    _ ↔ List.Forall₂ (fun item item' => part item = part item') left right := by
      simp only [List.forall₂_map_left_iff, List.forall₂_map_right_iff]
    _ ↔ _ := List.forall₂_iff_zip

namespace Transaction

/-! ## Payments and spendings -/

/-- What a transaction pays, and to whom. -/
def payments (tx : Transaction) : List (UInt64 × Owner) :=
  tx.outputs.map fun output => (output.amount, output.owner)

/-- What a transaction spends. -/
def spendings (tx : Transaction) : List OutPoint := tx.inputs.map Input.outpoint

/-- The transaction with other unlocking scripts and sequences, by position, and another
locktime. -/
def withUnlocking (tx : Transaction) (scripts : Nat → Bytes) (sequences : Nat → UInt32)
    (locktime : UInt32) : Transaction :=
  { tx with
    inputs := tx.inputs.mapIdx fun position input =>
      { input with unlockingScript := scripts position, sequence := sequences position }
    locktime := locktime }

/-- The transaction with another amount at a position. -/
def withAmount (tx : Transaction) (position : Nat) (amount : UInt64) : Transaction :=
  { tx with outputs := tx.outputs.modify position fun output => { output with amount := amount } }

/-- The transaction with another owner at a position. -/
def withOwner (tx : Transaction) (position : Nat) (owner : Owner) : Transaction :=
  { tx with outputs := tx.outputs.modify position fun output => { output with owner := owner } }

/-- The transaction with another outpoint spent at a position. -/
def withOutpoint (tx : Transaction) (position : Nat) (point : OutPoint) : Transaction :=
  { tx with inputs := tx.inputs.modify position fun input => { input with outpoint := point } }

/-- Transactions are equivalent exactly if they agree in version, payments and spendings. -/
theorem equivalent_iff (left right : Transaction) :
    left.equivalent right = true ↔ left.version = right.version ∧
      left.payments = right.payments ∧ left.spendings = right.spendings := by
  rw [payments, payments, spendings, spendings, map_eq_map_iff_zip, map_eq_map_iff_zip]
  simp only [equivalent, Bool.and_eq_true, beq_iff_eq, List.all_eq_true, Prod.forall, Prod.mk.injEq]
  constructor
  · rintro ⟨⟨⟨⟨versions, outputCounts⟩, inputCounts⟩, outputs⟩, inputs⟩
    exact ⟨versions, ⟨outputCounts, outputs⟩, inputCounts, inputs⟩
  · rintro ⟨versions, ⟨outputCounts, outputs⟩, inputCounts, inputs⟩
    exact ⟨⟨⟨⟨versions, outputCounts⟩, inputCounts⟩, outputs⟩, inputs⟩

/-- Equivalence is a comparison of what two transactions do, so it goes both ways. -/
theorem equivalent_comm (left right : Transaction) :
    left.equivalent right = right.equivalent left := by
  rw [Bool.eq_iff_iff, equivalent_iff, equivalent_iff]
  constructor
  · rintro ⟨versions, payments, spendings⟩
    exact ⟨versions.symm, payments.symm, spendings.symm⟩
  · rintro ⟨versions, payments, spendings⟩
    exact ⟨versions.symm, payments.symm, spendings.symm⟩

/-- Equivalence is transitive. -/
theorem equivalent_trans {first second third : Transaction}
    (firstSecond : first.equivalent second = true) (secondThird : second.equivalent third = true) :
    first.equivalent third = true := by
  rw [equivalent_iff] at *
  obtain ⟨versions, payments, spendings⟩ := firstSecond
  obtain ⟨versions', payments', spendings'⟩ := secondThird
  exact ⟨versions.trans versions', payments.trans payments', spendings.trans spendings'⟩

/-! ## Changed transactions -/

/-- Unlocking a transaction in another way leaves what it does. -/
theorem equivalent_withUnlocking (left right : Transaction) (scripts : Nat → Bytes)
    (sequences : Nat → UInt32) (locktime : UInt32) :
    (left.withUnlocking scripts sequences locktime).equivalent right = left.equivalent right := by
  have spendings : (left.withUnlocking scripts sequences locktime).spendings = left.spendings := by
    apply List.ext_getElem?
    simp [Transaction.spendings, withUnlocking, Function.comp_def]
  rw [Bool.eq_iff_iff, equivalent_iff, equivalent_iff, spendings]
  rfl

/-- Transactions that pay differently at a position are not equivalent. -/
theorem not_equivalent_of_payments {left right : Transaction} (position : Nat)
    (differ : left.payments[position]? ≠ right.payments[position]?) :
    left.equivalent right = false := by
  rw [Bool.eq_false_iff, Ne, equivalent_iff]
  rintro ⟨_, payments, _⟩
  exact differ (payments ▸ rfl)

/-- Transactions that spend differently at a position are not equivalent. -/
theorem not_equivalent_of_spendings {left right : Transaction} (position : Nat)
    (differ : left.spendings[position]? ≠ right.spendings[position]?) :
    left.equivalent right = false := by
  rw [Bool.eq_false_iff, Ne, equivalent_iff]
  rintro ⟨_, _, spendings⟩
  exact differ (spendings ▸ rfl)

/-- A changed amount of an output is noticed. -/
theorem not_equivalent_withAmount {tx : Transaction} {position : Nat} {output : Output}
    (found : tx.outputs[position]? = some output) {amount : UInt64}
    (changed : amount ≠ output.amount) : tx.equivalent (tx.withAmount position amount) = false := by
  apply not_equivalent_of_payments position
  simp [payments, withAmount, found, changed.symm]

/-- A changed owner of an output is noticed. -/
theorem not_equivalent_withOwner {tx : Transaction} {position : Nat} {output : Output}
    (found : tx.outputs[position]? = some output) {owner : Owner}
    (changed : owner ≠ output.owner) : tx.equivalent (tx.withOwner position owner) = false := by
  apply not_equivalent_of_payments position
  simp [payments, withOwner, found, changed.symm]

/-- A changed outpoint of an input is noticed. -/
theorem not_equivalent_withOutpoint {tx : Transaction} {position : Nat} {input : Input}
    (found : tx.inputs[position]? = some input) {point : OutPoint}
    (changed : point ≠ input.outpoint) :
    tx.equivalent (tx.withOutpoint position point) = false := by
  apply not_equivalent_of_spendings position
  simp [spendings, withOutpoint, found, changed.symm]

/-! ## Ids -/

/-- Transactions of one id are equivalent, unless their contents collide. -/
theorem equivalent_of_id {left right : Transaction} (ids : left.id = right.id)
    (free : ¬ Digest.Collision (Digest.message left.content) (Digest.message right.content)) :
    left.equivalent right = true := by
  obtain rfl | collision := (id_eq_iff left right).mp ids
  · simp [equivalent_iff]
  · exact absurd collision free

/-- Transactions are equivalent exactly if they agree in version, in all payments and in all
outpoints they spend. So equivalence is a comparison of what transactions do. It does not see how
and from when on they are unlocked, it sees a change of any one amount, owner or spent outpoint,
and transactions of one id are equivalent unless their contents collide. -/
theorem equivalent_sees_effects_only :
    (∀ left right : Transaction, left.equivalent right = true ↔ left.version = right.version ∧
      left.payments = right.payments ∧ left.spendings = right.spendings) ∧
    (∀ tx : Transaction, tx.equivalent tx = true) ∧
    (∀ left right : Transaction, left.equivalent right = right.equivalent left) ∧
    (∀ first second third : Transaction, first.equivalent second = true →
      second.equivalent third = true → first.equivalent third = true) ∧
    (∀ (left right : Transaction) (scripts : Nat → Bytes) (sequences : Nat → UInt32)
      (locktime : UInt32),
        (left.withUnlocking scripts sequences locktime).equivalent right = left.equivalent right ∧
        left.equivalent (right.withUnlocking scripts sequences locktime) =
          left.equivalent right) ∧
    (∀ (tx : Transaction) (position : Nat) (output : Output),
      tx.outputs[position]? = some output →
        (∀ amount, amount ≠ output.amount →
          tx.equivalent (tx.withAmount position amount) = false) ∧
        ∀ owner, owner ≠ output.owner → tx.equivalent (tx.withOwner position owner) = false) ∧
    (∀ (tx : Transaction) (position : Nat) (input : Input), tx.inputs[position]? = some input →
      ∀ point, point ≠ input.outpoint → tx.equivalent (tx.withOutpoint position point) = false) ∧
    ∀ left right : Transaction, left.id = right.id →
      ¬ Digest.Collision (Digest.message left.content) (Digest.message right.content) →
        left.equivalent right = true := by
  refine ⟨equivalent_iff, ?_, equivalent_comm, ?_, ?_, ?_, ?_, ?_⟩
  · simp [equivalent_iff]
  · intro first second third
    exact equivalent_trans
  · intro left right scripts sequences locktime
    refine ⟨equivalent_withUnlocking left right scripts sequences locktime, ?_⟩
    rw [equivalent_comm, equivalent_withUnlocking, equivalent_comm]
  · intro tx position output found
    exact ⟨fun _ => not_equivalent_withAmount found, fun _ => not_equivalent_withOwner found⟩
  · intro tx position input found point
    exact not_equivalent_withOutpoint found
  · intro left right
    exact equivalent_of_id

/-- A transaction whose last output or last input is changed, or that is unlocked otherwise. -/
theorem equivalent_sees_effects_only_to_the_last :
    let tx : Transaction := ⟨1, [⟨⟨Digest.zero, 0⟩, [], 7⟩, ⟨⟨Digest.zero, 1⟩, [1, 2, 3], 7⟩],
      [⟨20, .address "b"⟩, ⟨30, .address "c"⟩], 0⟩
    let unlocked := tx.withUnlocking (fun _ => [4]) (fun _ => 8) 9
    tx ≠ unlocked ∧ unlocked.equivalent tx = true ∧
      unlocked.equivalent (unlocked.withUnlocking (fun _ => []) (fun _ => 7) 1) = true ∧
      tx.equivalent (tx.withAmount 1 31) = false ∧
      tx.equivalent (tx.withOwner 1 (.address "d")) = false ∧
      tx.equivalent (tx.withOutpoint 1 ⟨Digest.zero, 2⟩) = false := by
  intro tx unlocked
  obtain ⟨_, _, comm, trans, unlocking, outputs, inputs, ids⟩ := equivalent_sees_effects_only
  have same : tx.equivalent tx = true := ids tx tx rfl fun collision => collision.1 rfl
  have other : tx.equivalent unlocked = true := (unlocking tx tx _ _ _).2.trans same
  have again : tx.equivalent (unlocked.withUnlocking (fun _ => []) (fun _ => 7) 1) = true :=
    (unlocking tx unlocked _ _ _).2.trans other
  have back : unlocked.equivalent tx = true := (comm unlocked tx).trans other
  have output : tx.outputs[1]? = some ⟨30, .address "c"⟩ := rfl
  have input : tx.inputs[1]? = some ⟨⟨Digest.zero, 1⟩, [1, 2, 3], 7⟩ := rfl
  exact ⟨by decide, back, trans _ _ _ back again, (outputs tx 1 _ output).1 31 (by decide),
    (outputs tx 1 _ output).2 (.address "d") (by decide),
    inputs tx 1 _ input ⟨Digest.zero, 2⟩ (by decide)⟩

end Transaction
end PocketLedger
