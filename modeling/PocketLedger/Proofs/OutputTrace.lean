import PocketLedger.Proofs.SessionRun

/-!
# The trace tells the outputs

Every output that becomes available and every output that is spent is reported, also by an
operation that fails half way. `replay?` follows the reports and nothing else: it starts from no
outputs and stops at a report that does not fit. Along every run it never stops, and after every
operation it has arrived at the outputs that are available.
-/

namespace PocketLedger

/-! ## Following the reports -/

/-- Outputs by outpoint, as far as they have been told. -/
abbrev Told := OutPoint → Option Output

/-- What is told after a notice. An output can be added only where there is none, and spent only
where there is one. Other notices tell nothing about outputs. -/
def Notice.follow? (told : Told) : Notice → Option Told
  | .outputAdded point output =>
    match told point with
    | none => some fun other => if point = other then some output else told other
    | some _ => none
  | .outputSpent point =>
    match told point with
    | none => none
    | some _ => some fun other => if point = other then none else told other
  | .blockAccepted .. | .transactionAdded .. | .chainAdvanced _ | .accountsGenerated ..
  | .addressGenerated .. | .recordsLoaded .. => some told

/-- What is told after notices in order, if each of them fits what was told before it. -/
def replay? (told : Told) (notices : List Notice) : Option Told :=
  notices.foldlM Notice.follow? told

theorem replay?_append (told : Told) (first second : List Notice) :
    replay? told (first ++ second) = (replay? told first).bind fun told => replay? told second :=
  List.foldlM_append

/-- Notices that lead from the outputs before to the outputs after. -/
def Unspent.Reported (before : Unspent) (notices : List Notice) (after : Unspent) : Prop :=
  replay? before.get? notices = some after.get?

namespace Unspent.Reported

variable {before middle after : Unspent} {first second : List Notice}

/-- Nothing has to be reported as long as nothing changes. -/
theorem refl (set : Unspent) : Reported set [] set := rfl

theorem trans (firstReported : Reported before first middle)
    (secondReported : Reported middle second after) : Reported before (first ++ second) after := by
  unfold Reported at *
  rw [replay?_append, firstReported]
  exact secondReported

end Unspent.Reported

/-! ## Outputs -/

namespace Unspent

/-- Adding an output reports what it does. -/
theorem reported_add (set : Unspent) (point : OutPoint) (output : Output) :
    Reported set (set.add point output).notices (set.add point output).state := by
  rcases set.add_cases point output with ⟨_, step⟩ | ⟨absent, step⟩
  · rw [step]
    exact .refl set
  · have after : get? ⟨set.outputs.insert point output⟩ =
        fun other => if point = other then some output else set.get? other :=
      funext fun other => set.get?_insert point other output
    rw [step, Reported, after]
    simp [replay?, Notice.follow?, absent]

/-- Adding outputs up to the first that is present reports those before it. -/
theorem reported_addFrom (txId : Digest) (index : Nat) (outputs : List Output) (set : Unspent) :
    Reported set (addFrom txId index outputs set).notices
      (addFrom txId index outputs set).state := by
  induction outputs generalizing index set with
  | nil => exact .refl set
  | cons output rest ih =>
    have first := set.reported_add ⟨txId, index.toUInt32⟩ output
    rw [addFrom]
    cases result : (set.add ⟨txId, index.toUInt32⟩ output).result with
    | error error =>
      rw [Step.andThen, result]
      exact first
    | ok _ =>
      rw [Step.andThen_of_ok result]
      exact first.trans (ih (index + 1) _)

end Unspent

/-- Spending in order reports what was spent before the first outpoint that is missing. -/
theorem Draft.reported_spendAll (draft : Draft) (spends : List Spend) (set : Unspent) :
    Unspent.Reported set (draft.spendAll spends set).notices (draft.spendAll spends set).state := by
  induction spends generalizing draft set with
  | nil => exact .refl set
  | cons first rest ih =>
    rw [spendAll]
    cases found : set.get? first.outpoint with
    | none =>
      rw [spend_of_absent found]
      exact .refl set
    | some output =>
      have spent : Unspent.Reported set [.outputSpent first.outpoint]
          ⟨set.outputs.erase first.outpoint⟩ := by
        have after : Unspent.get? ⟨set.outputs.erase first.outpoint⟩ =
            fun other => if first.outpoint = other then none else set.get? other :=
          funext fun other => set.get?_erase first.outpoint other
        rw [Unspent.Reported, after]
        simp [replay?, Notice.follow?, found]
      rw [spend_of_present found]
      exact spent.trans (ih _ _)

/-! ## Operations -/

namespace Session

/-- Registering a transaction reports the outputs it adds, also if it then fails. -/
theorem reported_add (session : Session) (named : NamedTransaction) :
    Unspent.Reported session.unspent (session.add named).notices
      (session.add named).state.unspent := by
  have outputs : Unspent.Reported session.unspent
      (session.unspent.addOutputs named.transaction).notices
      (session.unspent.addOutputs named.transaction).state := Unspent.reported_addFrom ..
  rcases session.add_cases named with ⟨_, _, step⟩ | ⟨_, step⟩
  · rw [step]
    exact outputs
  · rw [step]
    exact outputs.trans rfl

/-- Listening and all operations on blocks report nothing about outputs. -/
theorem reported_of_idle (session : Session) {operation : Operation}
    (idle : operation.transacts = false) (set : Unspent) :
    Unspent.Reported set (session.perform operation).notices set := by
  have accepted : ∀ block, Unspent.Reported set (session.acceptBlock block).notices set := by
    intro block
    rcases session.acceptBlock_cases block with ⟨_, step⟩ | ⟨_, _, step⟩
    · rw [step]
      exact .refl set
    · rw [step]
      rfl
  cases operation with
  | add => cases idle
  | ordinary => cases idle
  | generation => cases idle
  | listen | buildBlock | buildBlockOn => exact .refl set
  | acceptBlock block =>
    rw [perform, Step.andThen_done]
    exact accepted block
  | newBlock now transactions =>
    rw [perform, Step.andThen_done]
    rcases session.newBlock_cases now transactions with ⟨_, step⟩ | ⟨block, _, step⟩
    · rw [step]
      exact .refl set
    · rw [step]
      exact accepted block

/-- Every operation reports what it does to the outputs. -/
theorem reported_perform (session : Session) (operation : Operation) :
    Unspent.Reported session.unspent (session.perform operation).notices
      (session.perform operation).state.unspent := by
  cases transacts : operation.transacts with
  | false =>
    rw [(session.perform_leavesOutputs transacts).unspent]
    exact session.reported_of_idle transacts session.unspent
  | true =>
    cases operation with
    | add named =>
      rw [session.perform_add named]
      exact session.reported_add named
    | ordinary name spends outputs =>
      let left := { session with unspent := (Draft.empty.spendAll spends session.unspent).state }
      have spent : Unspent.Reported session.unspent _ left.unspent :=
        Draft.empty.reported_spendAll spends session.unspent
      rcases session.perform_ordinary_cases name spends outputs with ⟨error, step⟩ | step
      · rw [step]
        exact spent
      · rw [step]
        exact spent.trans (left.reported_add _)
    | generation name owner =>
      rw [session.perform_generation name owner]
      exact session.counted.reported_add ⟨name, session.nextGeneration owner⟩
    | listen | buildBlock | buildBlockOn | acceptBlock | newBlock => cases transacts

end Session

/-! ## Runs -/

/-- All that was reported in a run, in order. -/
def noticesIn (run : List Occurrence) : List Notice :=
  run.flatMap fun occurrence => occurrence.step.notices

namespace Session

/-- A run reports what it does to the outputs. -/
theorem reported_performAll (session : Session) (operations : List Operation) :
    Unspent.Reported session.unspent (noticesIn (session.occurrences operations))
      (session.performAll operations).unspent := by
  induction operations generalizing session with
  | nil => exact .refl session.unspent
  | cons first rest ih =>
    rw [occurrences, noticesIn, List.flatMap_cons, performAll_cons]
    exact (session.reported_perform first).trans (ih _)

/-- The first occurrences of a run are those of its first operations. -/
theorem take_occurrences (session : Session) (operations : List Operation) (count : Nat) :
    (session.occurrences operations).take count =
      session.occurrences (operations.take count) := by
  induction operations generalizing session count with
  | nil => simp [occurrences]
  | cons first rest ih =>
    cases count with
    | zero => rfl
    | succ count => rw [occurrences, List.take_succ_cons, List.take_succ_cons, occurrences, ih]

/-- The reports of a run can be followed from no outputs to its end. After every operation they
have told exactly the outputs that are available then, each with its amount and owner. -/
theorem trace_tells_available (config : SessionConfig) (operations : List Operation)
    (count : Nat) :
    ∃ told, replay? (fun _ => none)
        (noticesIn (((start config).occurrences operations).take count)) = some told ∧
      ∀ point output, told point = some output ↔ (point, output) ∈
        ((start config).performAll (operations.take count)).unspent.available := by
  have nothing : (start config).unspent.get? = fun _ => none := funext Unspent.get?_empty
  have reported := (start config).reported_performAll (operations.take count)
  rw [Unspent.Reported, nothing, ← take_occurrences] at reported
  refine ⟨_, reported, fun point output => ?_⟩
  rw [Unspent.mem_available_iff]

end Session
end PocketLedger
