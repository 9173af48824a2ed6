import PocketLedger.Proofs.SessionRun

/-!
# How far registering a transaction gets

The outputs of a transaction are added one by one, and each is tested against what is there by
then. Registering stops at the first of them that is present. An index is a word, so after `2 ^ 32`
outputs it is zero once more, and there the first output of the same transaction is in the way.
Whatever was added before that stays, and neither the chain nor a listener hears of it.
-/

namespace PocketLedger

namespace Unspent

/-- The first outputs of a transaction are added, so many of them, and all else is as before. -/
def AddsFirst (set : Unspent) (tx : Transaction) (count : Nat) (after : Unspent) : Prop :=
  ∀ point, after.get? point =
    if point.txId = tx.id ∧ point.index.toNat < count then tx.outputs[point.index.toNat]?
    else set.get? point

/-- What is created comes before what was there. -/
theorem created_or (txId : Digest) (outputs : List Output) (point : OutPoint)
    (before : Option Output) :
    (created txId 0 outputs point).or before =
      if point.txId = txId ∧ point.index.toNat < outputs.length then outputs[point.index.toNat]?
      else before := by
  unfold created
  split
  next ofId =>
    split
    next inside =>
      rw [Nat.sub_zero, List.getElem?_eq_getElem inside.2]
      rfl
    next outside =>
      have beyond : outputs.length ≤ point.index.toNat :=
        Nat.le_of_not_lt fun bound => outside ⟨ofId.1, bound⟩
      rw [Nat.sub_zero, List.getElem?_eq_none beyond]
      rfl
  next other =>
    have different : ¬ (point.txId = txId ∧ point.index.toNat < outputs.length) :=
      fun both => other ⟨both.1, Nat.zero_le _⟩
    rw [if_neg different]
    rfl

namespace AddsUpTo

variable {set : Unspent} {tx : Transaction} {added rest : List Output}

theorem addsFirst (adds : AddsUpTo set tx added rest) :
    set.AddsFirst tx added.length (set.addOutputs tx).state := by
  intro point
  rw [adds.get?_eq, created_or]
  split
  next inside => rw [adds.outputs, List.getElem?_append_left inside.2]
  next => rfl

/-- Nothing that was added had been present. -/
theorem get?_eq_none (adds : AddsUpTo set tx added rest) {index : UInt32}
    (below : index.toNat < added.length) : set.get? ⟨tx.id, index⟩ = none := by
  apply adds.absent
  rw [Unspent.isSome_created_iff, Nat.zero_add]
  exact ⟨rfl, Nat.zero_le _, below⟩

/-- Adding stops at the least index with a present outpoint. -/
theorem stops_at_least (adds : AddsUpTo set tx added rest) {index : UInt32}
    (bound : index.toNat < tx.outputs.length) (present : (set.get? ⟨tx.id, index⟩).isSome)
    (least : ∀ lower < index, set.get? ⟨tx.id, lower⟩ = none) :
    added.length = index.toNat ∧
      (set.addOutputs tx).result = .error (.duplicate ⟨tx.id, index⟩) := by
  have word := index.toNat_lt_size
  have notBelow : added.length ≤ index.toNat := by
    refine Nat.le_of_not_lt fun below => ?_
    rw [adds.get?_eq_none below] at present
    cases present
  rcases adds.ending with ⟨rfl, _⟩ | ⟨_, stops, result⟩
  · rw [adds.outputs, List.append_nil] at bound
    omega
  · have small : added.length < UInt32.size := Nat.lt_of_le_of_lt notBelow word
    have here := stops.resolve_left (Nat.ne_of_lt small)
    have same : added.length = index.toNat := by
      refine Nat.le_antisymm notBelow (Nat.le_of_not_lt fun below => ?_)
      have lower : added.length.toUInt32 < index := by
        rw [UInt32.lt_iff_toNat_lt, toNat_toUInt32 small]
        exact below
      rw [least _ lower] at here
      cases here
    have index_eq : added.length.toUInt32 = index := by
      rw [← UInt32.toNat_inj, toNat_toUInt32 small, same]
    rw [index_eq] at result
    exact ⟨same, result⟩

/-- If no outpoint is present and there are more outputs than indices, adding stops when the
indices are used up. -/
theorem stops_at_wrap (adds : AddsUpTo set tx added rest)
    (more : UInt32.size < tx.outputs.length)
    (absent : ∀ index, set.get? ⟨tx.id, index⟩ = none) :
    added.length = UInt32.size ∧
      (set.addOutputs tx).result = .error (.duplicate ⟨tx.id, 0⟩) := by
  rcases adds.ending with ⟨rfl, _⟩ | ⟨_, full | present, result⟩
  · have room := adds.room
    rw [adds.outputs, List.append_nil] at more
    omega
  · rw [full] at result
    exact ⟨full, result⟩
  · rw [absent] at present
    cases present

/-- If everything could be added, all outputs were. -/
theorem length_of_ok (adds : AddsUpTo set tx added rest)
    (succeeded : (set.addOutputs tx).result = .ok ()) : added.length = tx.outputs.length := by
  rcases adds.ending with ⟨rfl, _⟩ | ⟨_, _, result⟩
  · rw [adds.outputs, List.append_nil]
  · rw [result] at succeeded
    cases succeeded

end AddsUpTo

theorem addsFirst_of_ok {set : Unspent} {tx : Transaction}
    (succeeded : (set.addOutputs tx).result = .ok ()) :
    set.AddsFirst tx tx.outputs.length (set.addOutputs tx).state := by
  obtain ⟨added, rest, adds⟩ := set.exists_addsUpTo tx
  rw [← adds.length_of_ok succeeded]
  exact adds.addsFirst

end Unspent

namespace Session

/-- A registration that fails changes nothing but the outputs. -/
theorem add_state_of_error (session : Session) (named : NamedTransaction) {error : SessionError}
    (failed : (session.add named).result = .error error) :
    (session.add named).state =
      { session with unspent := (session.add named).state.unspent } := by
  rcases session.add_cases named with ⟨_, _, step⟩ | ⟨_, step⟩
  · rw [step]
  · rw [step] at failed
    cases failed

theorem add_result_of_error (session : Session) (named : NamedTransaction) {error : UnspentError}
    (failed : (session.unspent.addOutputs named.transaction).result = .error error) :
    (session.add named).result = .error (.unspent error) := by
  rcases session.add_cases named with ⟨other, same, step⟩ | ⟨added, _⟩
  · rw [failed] at same
    rw [step, Except.error.inj same]
  · rw [failed] at added
    cases added

/-- A transaction is registered exactly if there are indices for its outputs and none of their
outpoints is present, and then all of them are added. Otherwise the least present one is named as
a duplicate, or the first if the indices run out before. The outputs before the duplicate have
been added by then, and nothing else has changed. -/
theorem add_up_to_duplicate (session : Session) (named : NamedTransaction) :
    let tx := named.transaction
    let set := session.unspent
    let step := session.add named
    (step.result = .ok () ↔ tx.outputs.length ≤ UInt32.size ∧
      ∀ index : UInt32, index.toNat < tx.outputs.length → set.get? ⟨tx.id, index⟩ = none) ∧
    (step.result = .ok () → set.AddsFirst tx tx.outputs.length step.state.unspent) ∧
    (∀ index : UInt32, index.toNat < tx.outputs.length → (set.get? ⟨tx.id, index⟩).isSome →
      (∀ lower < index, set.get? ⟨tx.id, lower⟩ = none) →
      step.result = .error (.unspent (.duplicate ⟨tx.id, index⟩)) ∧
        set.AddsFirst tx index.toNat step.state.unspent) ∧
    (UInt32.size < tx.outputs.length → (∀ index, set.get? ⟨tx.id, index⟩ = none) →
      step.result = .error (.unspent (.duplicate ⟨tx.id, 0⟩)) ∧
        set.AddsFirst tx UInt32.size step.state.unspent) ∧
    ∀ error, step.result = .error error →
      step.state = { session with unspent := step.state.unspent } := by
  intro tx set step
  obtain ⟨added, rest, adds⟩ := set.exists_addsUpTo tx
  have first : set.AddsFirst tx added.length step.state.unspent := by
    rw [session.add_unspent named]
    exact adds.addsFirst
  refine ⟨?_, ?_, ?_, ?_, fun _ => session.add_state_of_error named⟩
  · rw [session.add_ok_iff named]
    exact set.addOutputs_ok_iff tx
  · intro succeeded
    rw [session.add_unspent named]
    exact Unspent.addsFirst_of_ok ((session.add_ok_iff named).mp succeeded)
  · intro index bound present least
    obtain ⟨length, result⟩ := adds.stops_at_least bound present least
    rw [← length]
    exact ⟨session.add_result_of_error named result, first⟩
  · intro more absent
    obtain ⟨length, result⟩ := adds.stops_at_wrap more absent
    rw [← length]
    exact ⟨session.add_result_of_error named result, first⟩

end Session
end PocketLedger
