import PocketLedger.Proofs.SessionRun
import Mathlib.Data.List.Induction

/-!
# Registering a transaction again

A registered transaction is refused only at an output that is available. Those of its outputs
that were spent are not remembered, so registering it again makes them available once more, up
to the first that was not spent. Registering it again is harmless exactly as long as its first
output is not spent.
-/

namespace PocketLedger

/-! ## Outputs of registered transactions -/

/-- An operation makes all outputs of what it registers available, and reports what it takes
away. -/
structure Occurrence.Issues (occurrence : Occurrence) : Prop where
  kept : ∀ point, (occurrence.before.unspent.get? point).isSome →
    (occurrence.step.state.unspent.get? point).isSome ∨ point ∈ occurrence.spent
  numbered : ∀ tx ∈ occurrence.registered, tx.outputs.length ≤ UInt32.size
  issued : ∀ tx ∈ occurrence.registered, ∀ index : UInt32, index.toNat < tx.outputs.length →
    (occurrence.step.state.unspent.get? ⟨tx.id, index⟩).isSome

namespace Occurrence

theorem issues_of_nothing_registered {occurrence : Occurrence}
    (nothing : occurrence.registered = [])
    (kept : ∀ point, (occurrence.before.unspent.get? point).isSome →
      (occurrence.step.state.unspent.get? point).isSome ∨ point ∈ occurrence.spent) :
    occurrence.Issues := by
  refine ⟨kept, ?_, ?_⟩
  · rw [nothing]
    nofun
  · rw [nothing]
    nofun

/-- An operation that comes down to registering a transaction after some outputs were spent. -/
theorem issues_of_add {occurrence : Occurrence} (left : Session) (named : NamedTransaction)
    (notices : List Notice) (step : occurrence.step = ⟨(left.add named).state,
      notices ++ (left.add named).notices,
      (left.add named).result.map fun _ => .registered named⟩)
    (kept : ∀ point, (occurrence.before.unspent.get? point).isSome →
      (left.unspent.get? point).isSome ∨ point ∈ spentPoints notices) : occurrence.Issues := by
  have unspent : occurrence.step.state.unspent =
      (left.unspent.addOutputs named.transaction).state := by rw [step, left.add_unspent]
  have keptAfter : ∀ point, (occurrence.before.unspent.get? point).isSome →
      (occurrence.step.state.unspent.get? point).isSome ∨ point ∈ occurrence.spent := by
    intro point present
    rcases kept point present with there | taken
    · left
      obtain ⟨output, found⟩ := Option.isSome_iff_exists.mp there
      rw [unspent, Unspent.addOutputs, Unspent.get?_addFrom_of_some found]
      rfl
    · right
      rw [spent, step, spentPoints_append]
      exact List.mem_append_left _ taken
  cases result : (left.add named).result with
  | error error =>
    have failed : occurrence.step.result = .error error := by
      rw [step, result]
      rfl
    exact issues_of_nothing_registered (registered_of_failed failed) keptAfter
  | ok _ =>
    have one : occurrence.registered = [named.transaction] := by
      rw [registered, step, result]
      rfl
    have added := (left.add_ok_iff named).mp result
    refine ⟨keptAfter, ?_, ?_⟩
    · rw [one]
      rintro tx mem
      rw [List.mem_singleton.mp mem]
      exact ((Unspent.addOutputs_ok_iff _ _).mp added).1
    · rw [one, unspent]
      rintro tx mem index bound
      rw [List.mem_singleton.mp mem] at bound ⊢
      exact Unspent.isSome_of_addOutputs_ok added bound

end Occurrence

namespace Session

/-- What was spent in order is gone and reported, and everything else is left. -/
theorem kept_by_spendAll (session : Session) (spends : List Spend) (point : OutPoint)
    (present : (session.unspent.get? point).isSome) :
    ((Draft.empty.spendAll spends session.unspent).state.get? point).isSome ∨
      point ∈ spentPoints (Draft.empty.spendAll spends session.unspent).notices := by
  rw [Draft.get?_spendAll, Draft.spentPoints_spendAll]
  split
  next taken => exact .inr taken
  next => exact .inl present

/-- Every operation issues what it registers. -/
theorem issues (session : Session) (operation : Operation) :
    Occurrence.Issues ⟨session, operation⟩ := by
  cases transacts : operation.transacts with
  | false =>
    refine Occurrence.issues_of_nothing_registered (session.registered_of_idle transacts) ?_
    intro point present
    left
    rw [Occurrence.step, (session.perform_leavesOutputs transacts).unspent]
    exact present
  | true =>
    cases operation with
    | add named =>
      exact Occurrence.issues_of_add session named [] (session.perform_add named) fun _ => .inl
    | ordinary name spends outputs =>
      rcases session.perform_ordinary_cases name spends outputs with ⟨error, step⟩ | step
      · have failed : Occurrence.step ⟨session, .ordinary name spends outputs⟩ = _ := step
        refine Occurrence.issues_of_nothing_registered
          (Occurrence.registered_of_failed (by rw [failed])) ?_
        rw [Occurrence.spent, failed]
        exact session.kept_by_spendAll spends
      · exact Occurrence.issues_of_add _ _ _ step (session.kept_by_spendAll spends)
    | generation name owner =>
      exact Occurrence.issues_of_add session.counted ⟨name, session.nextGeneration owner⟩ []
        (session.perform_generation name owner) fun _ => .inl
    | listen | buildBlock | buildBlockOn | acceptBlock | newBlock => cases transacts

end Session

/-- Every output of what was registered in a run is available or was spent in it. -/
structure Issued (session : Session) (run : List Occurrence) : Prop where
  numbered : ∀ tx ∈ registeredIn run, tx.outputs.length ≤ UInt32.size
  available_or_spent : ∀ tx ∈ registeredIn run, ∀ index : UInt32,
    index.toNat < tx.outputs.length →
      (session.unspent.get? ⟨tx.id, index⟩).isSome ∨ ⟨tx.id, index⟩ ∈ spentIn run

/-- An operation goes on with what was issued before it. -/
theorem Issued.concat {run : List Occurrence} {last : Occurrence}
    (before : Issued last.before run) (issues : last.Issues) :
    Issued last.step.state (run ++ [last]) := by
  constructor
  case numbered =>
    intro tx mem
    rw [registeredIn_concat] at mem
    rcases List.mem_append.mp mem with earlier | latest
    · exact before.numbered tx earlier
    · exact issues.numbered tx latest
  case available_or_spent =>
    intro tx mem index bound
    rw [registeredIn_concat] at mem
    rw [spentIn_concat, List.mem_append]
    rcases List.mem_append.mp mem with earlier | latest
    · rcases before.available_or_spent tx earlier index bound with there | gone
      · exact (issues.kept _ there).imp_right .inr
      · exact .inr (.inl gone)
    · exact .inl (issues.issued tx latest index bound)

namespace Session

theorem issued_occurrences (config : SessionConfig) (operations : List Operation) :
    Issued ((start config).performAll operations) ((start config).occurrences operations) := by
  induction operations using List.reverseRecOn with
  | nil => exact ⟨nofun, nofun⟩
  | append_singleton operations last ih =>
    rw [performAll_concat, occurrences_concat]
    exact Issued.concat ih (issues ((start config).performAll operations) last)

/-! ## The second time -/

/-- Registering a transaction again takes nothing away, and makes its outputs up to the first
available one available, all of which were spent before. So nothing changes exactly if there are
no outputs or the first one is available. It succeeds exactly if all outputs were spent. -/
theorem add_again_restores_spent (config : SessionConfig) (operations : List Operation)
    (named : NamedTransaction)
    (mem : named.transaction ∈ registeredIn ((start config).occurrences operations)) :
    let run := (start config).occurrences operations
    let session := (start config).performAll operations
    let tx := named.transaction
    let after := (session.add named).state
    (∀ point output, session.unspent.get? point = some output →
      after.unspent.get? point = some output) ∧
    (∀ point output, session.unspent.get? point = none →
      (after.unspent.get? point = some output ↔ point.txId = tx.id ∧
        tx.outputs[point.index.toNat]? = some output ∧
        ∀ index ≤ point.index, session.unspent.get? ⟨tx.id, index⟩ = none)) ∧
    (∀ point, session.unspent.get? point = none → (after.unspent.get? point).isSome →
      point ∈ spentIn run) ∧
    ((∀ point, (after.unspent.get? point).isSome → (session.unspent.get? point).isSome) ↔
      tx.outputs = [] ∨ (session.unspent.get? ⟨tx.id, 0⟩).isSome) ∧
    ((session.add named).result = .ok () ↔ ∀ index : UInt32, index.toNat < tx.outputs.length →
      session.unspent.get? ⟨tx.id, index⟩ = none) := by
  intro run session tx after
  have issued : Issued session run := issued_occurrences config operations
  have unspent : after.unspent = (session.unspent.addOutputs tx).state := session.add_unspent named
  have restored : ∀ point output, session.unspent.get? point = none →
      (after.unspent.get? point = some output ↔ point.txId = tx.id ∧
        tx.outputs[point.index.toNat]? = some output ∧
        ∀ index ≤ point.index, session.unspent.get? ⟨tx.id, index⟩ = none) := by
    intro point output absent
    rw [unspent]
    exact Unspent.get?_addOutputs_of_absent absent tx output
  refine ⟨?_, restored, ?_, ?_, ?_⟩
  · intro point output found
    rw [unspent]
    exact Unspent.get?_addFrom_of_some found tx.id 0 tx.outputs
  · intro point absent present
    obtain ⟨output, found⟩ := Option.isSome_iff_exists.mp present
    obtain ⟨ofId, there, _⟩ := (restored point output absent).mp found
    have bound := (List.getElem?_eq_some_iff.mp there).1
    obtain ⟨id, index⟩ := point
    subst ofId
    refine (issued.available_or_spent tx mem index bound).resolve_left ?_
    rw [absent]
    nofun
  · rw [unspent]
    exact Unspent.addOutputs_adds_nothing_iff session.unspent tx
  · rw [session.add_ok_iff, Unspent.addOutputs_ok_iff]
    exact and_iff_right (issued.numbered tx mem)

/-- An ordinary transaction without outputs takes away what it spends and nothing else. -/
theorem get?_ordinary_of_no_outputs (session : Session) (name : String) (spends : List Spend)
    (point : OutPoint) :
    (session.perform (.ordinary name spends [])).state.unspent.get? point =
      if point ∈ session.unspent.taken (spends.map Spend.outpoint) then none
      else session.unspent.get? point := by
  rcases session.perform_ordinary_cases name spends [] with ⟨error, step⟩ | step
  · rw [step, Draft.get?_spendAll]
  · rw [step, add_unspent]
    exact Draft.get?_spendAll Draft.empty spends session.unspent point

/-- The first transaction of a session has all its outputs, as long as there are indices. -/
theorem add_to_nothing {session : Session} (nothing : session.unspent = .empty) (name : String)
    {tx : Transaction} (short : tx.outputs.length ≤ UInt32.size) :
    (session.add ⟨name, tx⟩).result = .ok () ∧
      ∀ point, (session.add ⟨name, tx⟩).state.unspent.get? point =
        Unspent.created tx.id 0 tx.outputs point := by
  have absent : ∀ point : OutPoint, point.txId = tx.id → session.unspent.get? point = none := by
    intro point _
    rw [nothing, Unspent.get?_empty]
  obtain ⟨added, states⟩ := Unspent.addOutputs_of_absent short absent
  refine ⟨(session.add_ok_iff ⟨name, tx⟩).mpr added, fun point => ?_⟩
  rw [session.add_unspent, states, nothing, Unspent.get?_empty, Option.or_none]

/-- A first transaction, and what is left of it once its first output is spent. -/
theorem first_registered_and_spent {session next : Session} {operation : Operation}
    {notices : List Notice} {name : String} {tx : Transaction} {output : Output}
    (step : session.perform operation = ⟨next, notices, .ok (.registered ⟨name, tx⟩)⟩)
    (states : ∀ point, next.unspent.get? point = Unspent.created tx.id 0 tx.outputs point)
    (first : tx.outputs[0]? = some output) {other : String} {script : Bytes} {sequence : UInt32}
    {operations : List Operation}
    (both : operations = [operation, .ordinary other [⟨⟨tx.id, 0⟩, script, sequence⟩] []]) :
    tx ∈ registeredIn (session.occurrences operations) ∧
      ∀ point, (session.performAll operations).unspent.get? point =
        if point = ⟨tx.id, 0⟩ then none else Unspent.created tx.id 0 tx.outputs point := by
  subst both
  constructor
  · refine List.mem_flatMap.mpr ⟨⟨session, operation⟩, List.mem_cons_self, ?_⟩
    rw [Occurrence.registered, Occurrence.step, step]
    exact List.mem_singleton_self tx
  · intro point
    have present : next.unspent.get? ⟨tx.id, 0⟩ = some output := by
      rw [states, Unspent.created_zero_eq_some_iff]
      exact ⟨rfl, first⟩
    rw [performAll_cons, performAll_cons, performAll_nil, step, get?_ordinary_of_no_outputs,
      List.map_cons, Unspent.taken_cons_of_present present, states]
    simp [Unspent.taken]

/-- A transaction whose only output was spent is registered again, and the output is back. -/
theorem spent_output_available_again :
    let owner := Owner.address "o"
    let made := (start .default).nextGeneration owner
    let operations : List Operation :=
      [.generation "a" owner, .ordinary "b" [⟨⟨made.id, 0⟩, [], Input.finalSequence⟩] []]
    made ∈ registeredIn ((start .default).occurrences operations) ∧
      ((start .default).performAll operations).unspent.get? ⟨made.id, 0⟩ = none ∧
      (((start .default).performAll operations).add ⟨"a", made⟩).state.unspent.get? ⟨made.id, 0⟩ =
        some ⟨50, owner⟩ := by
  intro owner made operations
  have nothing : (start .default).counted.unspent = .empty := rfl
  have short : made.outputs.length ≤ UInt32.size := by decide
  obtain ⟨result, states⟩ := add_to_nothing nothing "a" short
  have step := (start .default).perform_generation "a" owner
  rw [result] at step
  have both : operations =
    [.generation "a" owner, .ordinary "b" [⟨⟨made.id, 0⟩, [], Input.finalSequence⟩] []] := rfl
  obtain ⟨mem, left⟩ := first_registered_and_spent step states rfl both
  have spent : ((start .default).performAll operations).unspent.get? ⟨made.id, 0⟩ = none := by
    rw [left, if_pos rfl]
  refine ⟨mem, spent, ?_⟩
  rw [add_unspent]
  refine (Unspent.get?_addOutputs_of_absent spent made _).mpr ⟨rfl, rfl, fun index le => ?_⟩
  rw [UInt32.le_zero_iff.mp le]
  exact spent

/-- A transaction with an output that was spent and one that was not is refused the second time,
and yet the first output is back. -/
theorem add_again_restores_spent_when_refused :
    let owner := Owner.address "o"
    let tx : Transaction := ⟨Transaction.currentVersion, [], [⟨5, owner⟩, ⟨7, owner⟩], 0⟩
    let operations : List Operation :=
      [.add ⟨"a", tx⟩, .ordinary "b" [⟨⟨tx.id, 0⟩, [], Input.finalSequence⟩] []]
    let run := (start .default).occurrences operations
    tx ∈ registeredIn run ∧ ⟨tx.id, 0⟩ ∈ spentIn run ∧
      ((start .default).performAll operations).unspent.get? ⟨tx.id, 0⟩ = none ∧
      (((start .default).performAll operations).add ⟨"a", tx⟩).state.unspent.get? ⟨tx.id, 0⟩ =
        some ⟨5, owner⟩ ∧
      (((start .default).performAll operations).add ⟨"a", tx⟩).result ≠ .ok () := by
  intro owner tx operations run
  have nothing : (start .default).unspent = .empty := rfl
  have short : tx.outputs.length ≤ UInt32.size := by decide
  obtain ⟨result, states⟩ := add_to_nothing nothing "a" short
  have step := (start .default).perform_add ⟨"a", tx⟩
  rw [result] at step
  have both : operations =
    [.add ⟨"a", tx⟩, .ordinary "b" [⟨⟨tx.id, 0⟩, [], Input.finalSequence⟩] []] := rfl
  obtain ⟨mem, left⟩ := first_registered_and_spent step states rfl both
  have spent : ((start .default).performAll operations).unspent.get? ⟨tx.id, 0⟩ = none := by
    rw [left, if_pos rfl]
  have unspent : ((start .default).performAll operations).unspent.get? ⟨tx.id, 1⟩ =
      some ⟨7, owner⟩ := by
    rw [left, if_neg (by simp)]
    exact (Unspent.created_zero_eq_some_iff tx _ _).mpr ⟨rfl, rfl⟩
  obtain ⟨_, restored, known, _, succeeds⟩ :=
    add_again_restores_spent .default operations ⟨"a", tx⟩ mem
  have back : (((start .default).performAll operations).add ⟨"a", tx⟩).state.unspent.get?
      ⟨tx.id, 0⟩ = some ⟨5, owner⟩ := by
    refine (restored _ _ spent).mpr ⟨rfl, rfl, fun index le => ?_⟩
    rw [UInt32.le_zero_iff.mp le]
    exact spent
  refine ⟨mem, known _ spent (by rw [back]; rfl), spent, back, fun ok => ?_⟩
  have absent := succeeds.mp ok 1 (by decide)
  rw [unspent] at absent
  cases absent

end Session
end PocketLedger
