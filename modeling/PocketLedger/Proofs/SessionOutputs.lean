import PocketLedger.Proofs.OrdinaryTransactions
import PocketLedger.Proofs.TransactionIdentity
import Mathlib.Data.List.Induction

/-!
# The outputs of a session are accounted for

In a run that registers no transactions but its own, every available output was created by a
registered transaction and not spent since, and nothing is spent twice. `Ledger` is what each
operation keeps, also one that fails after it has spent something. A new ordinary transaction
cannot have an old id: the old transaction would have spent the same inputs already. A new
generation transaction cannot, since its marker is new.
-/

namespace PocketLedger

/-! ## The ledger of a run -/

/-- The outpoints that the inputs of ordinary transactions name, one for each input. -/
def ordinaryInputs (transactions : List Transaction) : List OutPoint :=
  (transactions.filter fun tx => !tx.isGeneration).flatMap fun tx => tx.inputs.map Input.outpoint

/-- How the unspent outputs follow from what was registered and spent. -/
structure Ledger (generations : Nat) (registered : List Transaction) (spent : List OutPoint)
    (unspent : Unspent) : Prop where
  available_iff : ∀ point output, unspent.get? point = some output ↔
    (∃ tx ∈ registered, tx.id = point.txId ∧ tx.outputs[point.index.toNat]? = some output) ∧
      point ∉ spent
  nodup_spent : spent.Nodup
  spent_known : ∀ point ∈ spent, ∃ tx ∈ registered, tx.id = point.txId
  inputs_spent : (ordinaryInputs registered).Sublist spent
  /-- The last index, which the null outpoint has, is never used. -/
  short : ∀ tx ∈ registered, tx.outputs.length < UInt32.size
  marked : ∀ tx ∈ registered, tx.isGeneration → ∃ number ≤ generations,
    ∃ input ∈ tx.inputs, input.unlockingScript = Session.marker number

namespace Ledger

variable {generations : Nat} {registered : List Transaction} {spent : List OutPoint}
  {unspent : Unspent}

theorem empty : Ledger 0 [] [] .empty where
  available_iff := by simp
  nodup_spent := List.nodup_nil
  spent_known := by simp
  inputs_spent := List.Sublist.refl _
  short := by simp
  marked := by simp

/-- A higher count of generations is as good. -/
theorem mono (ledger : Ledger generations registered spent unspent) {more : Nat}
    (le : generations ≤ more) : Ledger more registered spent unspent where
  available_iff := ledger.available_iff
  nodup_spent := ledger.nodup_spent
  spent_known := ledger.spent_known
  inputs_spent := ledger.inputs_spent
  short := ledger.short
  marked tx mem generates := by
    obtain ⟨number, bound, input, mem, marker⟩ := ledger.marked tx mem generates
    exact ⟨number, Nat.le_trans bound le, input, mem, marker⟩

/-- What is available was not spent. -/
theorem not_spent_of_isSome (ledger : Ledger generations registered spent unspent)
    {point : OutPoint} (present : (unspent.get? point).isSome) : point ∉ spent := by
  obtain ⟨output, found⟩ := Option.isSome_iff_exists.mp present
  exact ((ledger.available_iff point output).mp found).2

/-- What is available was created by a registered transaction. -/
theorem known_of_isSome (ledger : Ledger generations registered spent unspent)
    {point : OutPoint} (present : (unspent.get? point).isSome) :
    ∃ tx ∈ registered, tx.id = point.txId ∧ point.index.toNat < tx.outputs.length := by
  obtain ⟨output, found⟩ := Option.isSome_iff_exists.mp present
  obtain ⟨⟨tx, mem, ofId, there⟩, _⟩ := (ledger.available_iff point output).mp found
  exact ⟨tx, mem, ofId, (List.getElem?_eq_some_iff.mp there).1⟩

/-- The null outpoint is never available. -/
theorem not_isNull_of_isSome (ledger : Ledger generations registered spent unspent)
    {point : OutPoint} (present : (unspent.get? point).isSome) : point.isNull = false := by
  obtain ⟨tx, mem, _, bound⟩ := ledger.known_of_isSome present
  have short := ledger.short tx mem
  rw [OutPoint.isNull, beq_eq_false_iff_ne]
  rintro rfl
  have last : OutPoint.null.index.toNat = UInt32.size - 1 := rfl
  omega

/-- Spending in order keeps the ledger, whether or not everything could be spent. -/
theorem spendAll (ledger : Ledger generations registered spent unspent) (draft : Draft)
    (spends : List Spend) :
    Ledger generations registered (spent ++ unspent.taken (spends.map Spend.outpoint))
      (draft.spendAll spends unspent).state where
  available_iff point output := by
    rw [Draft.get?_spendAll, List.mem_append, not_or]
    split
    next taken => simp [taken]
    next notTaken => simp [ledger.available_iff, notTaken]
  nodup_spent := by
    refine List.nodup_append.mpr ⟨ledger.nodup_spent, unspent.nodup_taken _, ?_⟩
    rintro point old _ taken rfl
    exact ledger.not_spent_of_isSome (Unspent.isSome_of_mem_taken taken) old
  spent_known point mem := by
    rcases List.mem_append.mp mem with old | taken
    · exact ledger.spent_known point old
    · obtain ⟨tx, mem, ofId, _⟩ := ledger.known_of_isSome (Unspent.isSome_of_mem_taken taken)
      exact ⟨tx, mem, ofId⟩
  inputs_spent := ledger.inputs_spent.trans (List.sublist_append_left _ _)
  short := ledger.short
  marked := ledger.marked

/-- A transaction with a new id can be registered, and the ledger goes on with it. -/
theorem register (ledger : Ledger generations registered spent unspent) {tx : Transaction}
    (fresh : ∀ old ∈ registered, old.id ≠ tx.id)
    (inputs : (ordinaryInputs (registered ++ [tx])).Sublist spent)
    (short : tx.outputs.length < UInt32.size)
    (marked : tx.isGeneration → ∃ number ≤ generations,
      ∃ input ∈ tx.inputs, input.unlockingScript = Session.marker number) :
    (unspent.addOutputs tx).result = .ok () ∧
      Ledger generations (registered ++ [tx]) spent (unspent.addOutputs tx).state := by
  have absent : ∀ point : OutPoint, point.txId = tx.id → unspent.get? point = none := by
    intro point ofId
    rw [← Option.not_isSome_iff_eq_none]
    intro present
    obtain ⟨old, mem, same, _⟩ := ledger.known_of_isSome present
    exact fresh old mem (same.trans ofId)
  have notSpent : ∀ point : OutPoint, point.txId = tx.id → point ∉ spent := by
    intro point ofId mem
    obtain ⟨old, mem, same⟩ := ledger.spent_known point mem
    exact fresh old mem (same.trans ofId)
  obtain ⟨result, states⟩ := Unspent.addOutputs_of_absent (Nat.le_of_lt short) absent
  refine ⟨result, ?_⟩
  constructor
  case available_iff =>
    intro point output
    rw [states, Option.or_eq_some_iff]
    constructor
    · rintro (new | ⟨_, old⟩)
      · obtain ⟨ofId, there⟩ := (Unspent.created_zero_eq_some_iff tx point output).mp new
        exact ⟨⟨tx, List.mem_append_right _ List.mem_cons_self, ofId, there⟩,
          notSpent point ofId.symm⟩
      · obtain ⟨⟨creator, mem, there⟩, free⟩ := (ledger.available_iff point output).mp old
        exact ⟨⟨creator, List.mem_append_left _ mem, there⟩, free⟩
    · rintro ⟨⟨creator, mem, ofId, there⟩, free⟩
      rcases List.mem_append.mp mem with old | new
      · right
        refine ⟨?_, (ledger.available_iff point output).mpr ⟨⟨creator, old, ofId, there⟩, free⟩⟩
        rw [Option.eq_none_iff_forall_ne_some]
        intro other created
        obtain ⟨same, _⟩ := (Unspent.created_zero_eq_some_iff tx point other).mp created
        exact fresh creator old (ofId.trans same.symm)
      · left
        rw [List.mem_singleton.mp new] at ofId there
        exact (Unspent.created_zero_eq_some_iff tx point output).mpr ⟨ofId, there⟩
  case nodup_spent => exact ledger.nodup_spent
  case spent_known =>
    intro point mem
    obtain ⟨old, known, ofId⟩ := ledger.spent_known point mem
    exact ⟨old, List.mem_append_left _ known, ofId⟩
  case inputs_spent => exact inputs
  case short =>
    intro other mem
    rcases List.mem_append.mp mem with old | new
    · exact ledger.short other old
    · rw [List.mem_singleton.mp new]
      exact short
  case marked =>
    intro other mem generates
    rcases List.mem_append.mp mem with old | new
    · exact ledger.marked other old generates
    · rw [List.mem_singleton.mp new] at generates ⊢
      exact marked generates

end Ledger

/-! ## Operations -/

/-- An operation that registers nothing but what it makes, with outputs that can be numbered
below the last index. -/
def Operation.Own : Operation → Prop
  | .add _ => False
  | .ordinary _ _ outputs => outputs.length < UInt32.size
  | _ => True

/-- Whether an operation failed because an outpoint was present already. -/
def SessionError.isDuplicate : SessionError → Bool
  | .unspent (.duplicate _) => true
  | .transaction (.unspent (.duplicate _)) => true
  | _ => false

/-- The ledger goes on over an operation, which registers what it builds and finds nothing
present that it adds. -/
structure Keeps (registered : List Transaction) (spent : List OutPoint)
    (occurrence : Occurrence) : Prop where
  ledger : Ledger occurrence.step.state.generations (registered ++ occurrence.registered)
    (spent ++ occurrence.spent) occurrence.step.state.unspent
  registers_built : occurrence.registered = occurrence.built
  not_duplicate : ∀ error, occurrence.step.result = .error error → error.isDuplicate = false

theorem Transaction.isGeneration_eq_false {tx : Transaction}
    (spending : ∀ input ∈ tx.inputs, input.isGeneration = false) : tx.isGeneration = false := by
  unfold isGeneration
  split
  next input single => exact spending input (by rw [single]; exact List.mem_cons_self)
  next => rfl

@[simp]
theorem ordinaryInputs_concat (transactions : List Transaction) (tx : Transaction) :
    ordinaryInputs (transactions ++ [tx]) = ordinaryInputs transactions ++
      if tx.isGeneration then [] else tx.inputs.map Input.outpoint := by
  unfold ordinaryInputs
  cases generates : tx.isGeneration <;> simp [generates]

theorem mem_ordinaryInputs {transactions : List Transaction} {tx : Transaction}
    (mem : tx ∈ transactions) (ordinary : tx.isGeneration = false) {input : Input}
    (inputMem : input ∈ tx.inputs) : input.outpoint ∈ ordinaryInputs transactions := by
  refine List.mem_flatMap.mpr ⟨tx, List.mem_filter.mpr ⟨mem, ?_⟩, List.mem_map_of_mem inputMem⟩
  simp [ordinary]

namespace Ledger

variable {registered : List Transaction} {spent : List OutPoint} {session : Session}

/-- A transaction that spends an outpoint which is not yet spent has a new id, unless another
transaction has the same. -/
theorem fresh_of_spending
    {generations : Nat} {unspent : Unspent} (ledger : Ledger generations registered spent unspent)
    {tx : Transaction} (distinct : ∀ old ∈ registered, old.id = tx.id → old = tx)
    (ordinary : tx.isGeneration = false) {input : Input} (mem : input ∈ tx.inputs)
    (free : input.outpoint ∉ spent) : ∀ old ∈ registered, old.id ≠ tx.id := by
  intro old oldMem same
  obtain rfl := distinct old oldMem same
  exact free (ledger.inputs_spent.subset (mem_ordinaryInputs oldMem ordinary mem))

/-- A generation transaction with a marker above the count has a new id, unless another
transaction has the same. -/
theorem fresh_of_marker (ledger : Ledger session.generations registered spent session.unspent)
    {owner : Owner} (distinct : ∀ old ∈ registered,
      old.id = (session.nextGeneration owner).id → old = session.nextGeneration owner) :
    ∀ old ∈ registered, old.id ≠ (session.nextGeneration owner).id := by
  intro old oldMem same
  obtain rfl := distinct old oldMem same
  obtain ⟨number, bound, input, mem, marker⟩ := ledger.marked _ oldMem rfl
  rw [List.mem_singleton.mp mem] at marker
  have equal := Session.marker_injective marker
  omega

/-- An operation that fails, and has built nothing. -/
theorem keeps_of_failed {occurrence : Occurrence} {error : SessionError}
    (failed : occurrence.step.result = .error error) (notDuplicate : error.isDuplicate = false)
    (nothingBuilt : occurrence.built = [])
    (ledger : Ledger occurrence.step.state.generations registered (spent ++ occurrence.spent)
      occurrence.step.state.unspent) : Keeps registered spent occurrence := by
  have nothing := Occurrence.registered_of_failed failed
  refine ⟨?_, nothing.trans nothingBuilt.symm, ?_⟩
  · rw [nothing, List.append_nil]
    exact ledger
  · intro other same
    rw [failed] at same
    rw [← Except.error.inj same]
    exact notDuplicate

/-- An operation that registers what it has built. -/
theorem keeps_of_registered {occurrence : Occurrence} (named : NamedTransaction)
    (succeeded : occurrence.step.result = .ok (.registered named))
    (built : occurrence.built = [named.transaction])
    (ledger : Ledger occurrence.step.state.generations (registered ++ [named.transaction])
      (spent ++ occurrence.spent) occurrence.step.state.unspent) :
    Keeps registered spent occurrence := by
  have one : occurrence.registered = [named.transaction] := by rw [Occurrence.registered, succeeded]
  refine ⟨?_, one.trans built.symm, ?_⟩
  · rw [one]
    exact ledger
  · intro error same
    rw [succeeded] at same
    cases same

/-- Inputs for which everything was taken spend available outputs. -/
theorem present_of_taken {unspent : Unspent} {spends : List Spend}
    (all : unspent.taken (spends.map Spend.outpoint) = spends.map Spend.outpoint) :
    ∀ input ∈ spends.map Spend.input, (unspent.get? input.outpoint).isSome := by
  intro input mem
  obtain ⟨spend, spendMem, rfl⟩ := List.mem_map.mp mem
  apply Unspent.isSome_of_mem_taken
  rw [all]
  exact List.mem_map_of_mem spendMem

/-- A transaction that spends available outputs is new, and can be registered. -/
theorem register_ordinary {generations : Nat} {unspent : Unspent}
    (ledger : Ledger generations registered spent unspent) {spends : List Spend}
    (nonempty : spends ≠ [])
    (all : unspent.taken (spends.map Spend.outpoint) = spends.map Spend.outpoint)
    {tx : Transaction} (inputs : tx.inputs = spends.map Spend.input)
    (short : tx.outputs.length < UInt32.size)
    (distinct : ∀ old ∈ registered, old.id = tx.id → old = tx) :
    let left := (Draft.empty.spendAll spends unspent).state
    (left.addOutputs tx).result = .ok () ∧
      Ledger generations (registered ++ [tx]) (spent ++ unspent.taken (spends.map Spend.outpoint))
        (left.addOutputs tx).state := by
  have present : ∀ input ∈ tx.inputs, (unspent.get? input.outpoint).isSome := by
    rw [inputs]
    exact present_of_taken all
  have ordinary : tx.isGeneration = false := Transaction.isGeneration_eq_false fun input mem =>
    ledger.not_isNull_of_isSome (present input mem)
  have fresh : ∀ old ∈ registered, old.id ≠ tx.id := by
    obtain ⟨input, mem⟩ := List.exists_mem_of_ne_nil tx.inputs (by simpa [inputs] using nonempty)
    exact ledger.fresh_of_spending distinct ordinary mem
      (ledger.not_spent_of_isSome (present input mem))
  have names : tx.inputs.map Input.outpoint = spends.map Spend.outpoint := by
    rw [inputs, List.map_map]
    rfl
  refine (ledger.spendAll Draft.empty spends).register fresh ?_ short ?_
  · rw [ordinaryInputs_concat, ordinary, all, if_neg (by decide), names]
    exact ledger.inputs_spent.append (List.Sublist.refl _)
  · intro generates
    rw [ordinary] at generates
    cases generates

/-- An ordinary transaction keeps the ledger, wherever it fails. -/
theorem keeps_ordinary (ledger : Ledger session.generations registered spent session.unspent)
    {name : String} {spends : List Spend} {outputs : List Output}
    (short : outputs.length < UInt32.size)
    (distinct : ∀ old ∈ registered,
      ∀ tx ∈ Occurrence.built ⟨session, .ordinary name spends outputs⟩, old.id = tx.id → old = tx) :
    Keeps registered spent ⟨session, .ordinary name spends outputs⟩ := by
  have after := ledger.spendAll Draft.empty spends
  have step : Occurrence.step ⟨session, .ordinary name spends outputs⟩ =
      ⟨(session.ordinary name spends outputs).state, (session.ordinary name spends outputs).notices,
        (session.ordinary name spends outputs).result.map .registered⟩ := Step.andThen_done _ _
  rw [Session.ordinary] at step
  rcases session.draftOrdinary_cases name spends outputs with
    ⟨rfl, draft⟩ | ⟨point, _, draft⟩ | ⟨nonempty, _, all, draft⟩
  · rw [draft] at step
    refine keeps_of_failed (by rw [step]; rfl) rfl
      (Session.built_ordinary_of_error (by rw [draft]; rfl)) ?_
    rw [session.spent_ordinary, step]
    exact after
  · rw [draft] at step
    refine keeps_of_failed (by rw [step]; rfl) rfl
      (Session.built_ordinary_of_error (by rw [draft])) ?_
    rw [session.spent_ordinary, step]
    exact after
  · let tx : Transaction := ⟨Transaction.currentVersion, spends.map Spend.input, outputs, 0⟩
    have build : Draft.build ⟨Transaction.currentVersion, spends.map Spend.input, outputs, 0⟩ =
        .ok tx :=
      Draft.build_of_spending (by simpa using nonempty) fun input mem =>
        ledger.not_isNull_of_isSome (present_of_taken all input mem)
    have built : Occurrence.built ⟨session, .ordinary name spends outputs⟩ = [tx] := by
      rw [Session.built_ordinary_of_ok (by rw [draft]), build]
      rfl
    rw [built] at distinct
    obtain ⟨added, next⟩ := ledger.register_ordinary nonempty all rfl short
      fun old mem => distinct old mem tx (List.mem_singleton_self tx)
    let left := { session with unspent := (Draft.empty.spendAll spends session.unspent).state }
    obtain ⟨addResult, addUnspent⟩ := Session.add_of_ok left ⟨name, tx⟩ added
    obtain ⟨_, addGenerations⟩ := Session.add_state left ⟨name, tx⟩
    rw [draft] at step
    simp only [Step.andThen, Session.complete_of_build build] at step
    refine keeps_of_registered ⟨name, tx⟩ ?_ built ?_
    · rw [step, addResult]
      rfl
    · rw [session.spent_ordinary, step, addUnspent, addGenerations]
      exact next

/-- A generation transaction keeps the ledger. -/
theorem keeps_generation (ledger : Ledger session.generations registered spent session.unspent)
    {name : String} {owner : Owner} (distinct : ∀ old ∈ registered,
      ∀ tx ∈ Occurrence.built ⟨session, .generation name owner⟩, old.id = tx.id → old = tx) :
    Keeps registered spent ⟨session, .generation name owner⟩ := by
  rw [session.built_generation] at distinct
  have fresh := ledger.fresh_of_marker fun old mem => distinct old mem _ List.mem_cons_self
  have inputs : (ordinaryInputs (registered ++ [session.nextGeneration owner])).Sublist spent := by
    have generates : (session.nextGeneration owner).isGeneration = true := rfl
    rw [ordinaryInputs_concat, if_pos generates, List.append_nil]
    exact ledger.inputs_spent
  obtain ⟨added, next⟩ := (ledger.mono (Nat.le_succ _)).register fresh inputs
    (show 1 < UInt32.size by decide) fun _ => ⟨_, Nat.le_refl _, _, List.mem_cons_self, rfl⟩
  obtain ⟨addResult, addUnspent⟩ :=
    session.counted.add_of_ok ⟨name, session.nextGeneration owner⟩ added
  obtain ⟨_, addGenerations⟩ := session.counted.add_state ⟨name, session.nextGeneration owner⟩
  refine keeps_of_registered ⟨name, session.nextGeneration owner⟩ ?_
    (session.built_generation name owner) ?_
  · rw [Occurrence.step, Session.perform_generation, addResult]
    rfl
  · rw [session.spent_generation, Occurrence.step, Session.perform_generation, addUnspent,
      addGenerations, List.append_nil]
    exact next

/-- Listening and the operations on blocks keep the ledger as it is. -/
theorem keeps_of_idle (ledger : Ledger session.generations registered spent session.unspent)
    {operation : Operation} (idle : operation.transacts = false) :
    Keeps registered spent ⟨session, operation⟩ := by
  have leaves := session.perform_leavesOutputs idle
  have nothing := session.registered_of_idle idle
  refine ⟨?_, nothing.trans (session.built_of_idle idle).symm, ?_⟩
  · rw [nothing, session.spent_of_idle idle, Occurrence.step, leaves.unspent, leaves.generations,
      List.append_nil, List.append_nil]
    exact ledger
  · intro error failed
    obtain ⟨reason, rfl⟩ := leaves.fails_for_block error failed
    rfl

/-- Every operation of the session's own keeps the ledger. -/
theorem keeps (ledger : Ledger session.generations registered spent session.unspent)
    {operation : Operation} (own : operation.Own)
    (distinct : ∀ old ∈ registered, ∀ tx ∈ Occurrence.built ⟨session, operation⟩,
      old.id = tx.id → old = tx) :
    Keeps registered spent ⟨session, operation⟩ := by
  cases operation with
  | add => exact own.elim
  | ordinary name spends outputs => exact ledger.keeps_ordinary own distinct
  | generation name owner => exact ledger.keeps_generation distinct
  | listen => exact ledger.keeps_of_idle rfl
  | buildBlock => exact ledger.keeps_of_idle rfl
  | buildBlockOn => exact ledger.keeps_of_idle rfl
  | acceptBlock => exact ledger.keeps_of_idle rfl
  | newBlock => exact ledger.keeps_of_idle rfl

/-- What a registered transaction created is there until it is spent. -/
theorem isSome_of_created {generations : Nat} {unspent : Unspent}
    (ledger : Ledger generations registered spent unspent) {tx : Transaction}
    (known : tx ∈ registered) {index : UInt32} (created : index.toNat < tx.outputs.length)
    (notSpent : ⟨tx.id, index⟩ ∉ spent) : (unspent.get? ⟨tx.id, index⟩).isSome := by
  rw [(ledger.available_iff ⟨tx.id, index⟩ tx.outputs[index.toNat]).mpr
    ⟨⟨tx, known, rfl, List.getElem?_eq_some_iff.mpr ⟨created, rfl⟩⟩, notSpent⟩]
  rfl

/-- A transaction that spends what was created and not spent is built, and the ledger goes on
with it. -/
theorem spend_created (ledger : Ledger session.generations registered spent session.unspent)
    (name : String) {creator tx : Transaction} {index : UInt32} {script : Bytes}
    {sequence : UInt32} {outputs : List Output}
    (spending : tx = ⟨1, [⟨⟨creator.id, index⟩, script, sequence⟩], outputs, 0⟩)
    (known : creator ∈ registered) (created : index.toNat < creator.outputs.length)
    (notSpent : ⟨creator.id, index⟩ ∉ spent) (short : outputs.length < UInt32.size)
    (fresh : ∀ old ∈ registered, old.id ≠ tx.id) :
    let operation : Operation :=
      .ordinary name [⟨⟨creator.id, index⟩, script, sequence⟩] outputs
    Occurrence.built ⟨session, operation⟩ = [tx] ∧
      Occurrence.spent ⟨session, operation⟩ = [⟨creator.id, index⟩] ∧
      Ledger (session.perform operation).state.generations (registered ++ [tx])
        (spent ++ [⟨creator.id, index⟩]) (session.perform operation).state.unspent := by
  intro operation
  have present := ledger.isSome_of_created known created notSpent
  have free : session.unspent.Free [⟨creator.id, index⟩] := by
    rw [Unspent.free_iff]
    simp [present]
  have built : Occurrence.built ⟨session, operation⟩ = [tx] := by
    rw [spending]
    refine session.built_ordinary_of_spending name (List.cons_ne_nil _ _) outputs free ?_
    intro spend mem
    rw [List.mem_singleton.mp mem]
    exact beq_eq_false_iff_ne.mp (ledger.not_isNull_of_isSome present)
  have spentOne : Occurrence.spent ⟨session, operation⟩ = [⟨creator.id, index⟩] :=
    (session.spent_ordinary name _ outputs).trans (Draft.spendAll_of_free free Draft.empty).2
  have keeps : Keeps registered spent ⟨session, operation⟩ := by
    refine ledger.keeps_ordinary short fun old mem other otherMem same => ?_
    rw [built, List.mem_singleton] at otherMem
    rw [otherMem] at same
    exact absurd same (fresh old mem)
  have next := keeps.ledger
  rw [keeps.registers_built, built, spentOne] at next
  exact ⟨built, spentOne, next⟩

end Ledger

/-! ## Runs -/

/-- No two of the transactions have contents that collide. -/
def CollisionFree (transactions : List Transaction) : Prop :=
  ∀ left ∈ transactions, ∀ right ∈ transactions,
    ¬ Digest.Collision (Digest.message left.content) (Digest.message right.content)

/-- Transactions that their ids tell apart have no collision. -/
theorem collisionFree_of_ids {transactions : List Transaction}
    (apart : ∀ left ∈ transactions, ∀ right ∈ transactions, left.id = right.id → left = right) :
    CollisionFree transactions := by
  intro left leftMem right rightMem collision
  have ids : left.id = right.id := (Transaction.id_eq_iff left right).mpr (.inr collision)
  exact collision.1 (by rw [apart left leftMem right rightMem ids])

/-- The outputs of a session are accounted for by a run. -/
structure Accounted (session : Session) (run : List Occurrence) : Prop where
  ledger : Ledger session.generations (registeredIn run) (spentIn run) session.unspent
  registers_built : registeredIn run = builtIn run
  not_duplicate : ∀ occurrence ∈ run, ∀ error, occurrence.step.result = .error error →
    error.isDuplicate = false

namespace Session

/-- A run of the session's own operations accounts for its outputs. -/
theorem accounted_occurrences (config : SessionConfig) (operations : List Operation)
    (own : ∀ operation ∈ operations, operation.Own)
    (collisionFree : CollisionFree (builtIn ((start config).occurrences operations))) :
    Accounted ((start config).performAll operations) ((start config).occurrences operations) := by
  induction operations using List.reverseRecOn with
  | nil =>
    exact ⟨Ledger.empty, rfl, nofun⟩
  | append_singleton operations last ih =>
    rw [occurrences_concat, builtIn_concat] at collisionFree
    rw [performAll_concat, occurrences_concat]
    have before := ih (fun operation mem => own operation (List.mem_append_left _ mem))
      (fun left leftMem right rightMem => collisionFree left (List.mem_append_left _ leftMem) right
        (List.mem_append_left _ rightMem))
    have keeps := before.ledger.keeps (own last List.mem_concat_self) fun old oldMem tx mem same =>
      ((Transaction.id_eq_iff old tx).mp same).resolve_right
        (collisionFree old (List.mem_append_left _ (before.registers_built ▸ oldMem)) tx
          (List.mem_append_right _ mem))
    constructor
    case ledger =>
      rw [registeredIn_concat, spentIn_concat]
      exact keeps.ledger
    case registers_built =>
      rw [registeredIn_concat, builtIn_concat, before.registers_built, keeps.registers_built]
    case not_duplicate =>
      intro occurrence mem
      rcases List.mem_append.mp mem with earlier | latest
      · exact before.not_duplicate occurrence earlier
      · rw [List.mem_singleton.mp latest]
        exact keeps.not_duplicate

/-- In a run of the session's own operations with fewer than `2 ^ 64` generation transactions,
the count of these stays a word. Nothing is spent twice, no two inputs of ordinary transactions
name the same outpoint and all of them were spent, the available outputs are those of the
registered transactions without what was spent, and no outpoint is ever found to be present
already. -/
theorem outputs_accounted_for (config : SessionConfig) (operations : List Operation)
    (few : operations.countP Operation.generates < UInt64.size)
    (own : ∀ operation ∈ operations, operation.Own)
    (collisionFree : CollisionFree (builtIn ((start config).occurrences operations))) :
    let run := (start config).occurrences operations
    let session := (start config).performAll operations
    session.generations < UInt64.size ∧
      (spentIn run).Nodup ∧
      (ordinaryInputs (registeredIn run)).Nodup ∧
      (ordinaryInputs (registeredIn run)).Sublist (spentIn run) ∧
      (∀ point output, (point, output) ∈ session.unspent.available ↔
        (∃ tx ∈ registeredIn run,
          tx.id = point.txId ∧ tx.outputs[point.index.toNat]? = some output) ∧
        point ∉ spentIn run) ∧
      ∀ occurrence ∈ run, ∀ error, occurrence.step.result = .error error →
        error.isDuplicate = false := by
  intro run session
  have accounted : Accounted session run := accounted_occurrences config operations own collisionFree
  have count : session.generations = operations.countP Operation.generates :=
    ((start config).performAll_generations operations).trans (Nat.zero_add _)
  refine ⟨count ▸ few, accounted.ledger.nodup_spent,
    accounted.ledger.nodup_spent.sublist accounted.ledger.inputs_spent,
    accounted.ledger.inputs_spent, ?_, accounted.not_duplicate⟩
  intro point output
  rw [Unspent.mem_available_iff]
  exact accounted.ledger.available_iff point output

/-- The ids of a generation transaction, of one that splits what it made, and of one that moves
the second part. -/
theorem first_payments_differ :
    let made := (start .default).nextGeneration (.address "o")
    let split : Transaction := ⟨1, [⟨⟨made.id, 0⟩, [], Input.finalSequence⟩],
      [⟨20, .address "o"⟩, ⟨30, .address "o"⟩], 0⟩
    let moved : Transaction := ⟨1, [⟨⟨split.id, 1⟩, [], Input.finalSequence⟩],
      [⟨30, .address "p"⟩], 0⟩
    made.id ≠ split.id ∧ made.id ≠ moved.id ∧ split.id ≠ moved.id := by
  decide +kernel

/-- What is made is split, the second part is moved, and a call that names the first part twice
fails after it has spent it. -/
theorem occurrences_of_payments (config : SessionConfig) (owner : Owner)
    {made split moved : Transaction} {parts paid : List Output}
    (makes : made = (start config).nextGeneration owner)
    (splits : split = ⟨1, [⟨⟨made.id, 0⟩, [], Input.finalSequence⟩], parts, 0⟩)
    (moves : moved = ⟨1, [⟨⟨split.id, 1⟩, [], Input.finalSequence⟩], paid, 0⟩)
    (two : parts.length = 2) (short : paid.length < UInt32.size)
    (differ : made.id ≠ split.id ∧ made.id ≠ moved.id ∧ split.id ≠ moved.id)
    {operations : List Operation} (performed : operations = [
      .generation "a" owner,
      .ordinary "b" [⟨⟨made.id, 0⟩, [], Input.finalSequence⟩] parts,
      .ordinary "c" [⟨⟨split.id, 1⟩, [], Input.finalSequence⟩] paid,
      .ordinary "d" [⟨⟨split.id, 0⟩, [], Input.finalSequence⟩,
        ⟨⟨split.id, 0⟩, [], Input.finalSequence⟩] paid,
      .newBlock 7 [⟨"b", split⟩]]) :
    builtIn ((start config).occurrences operations) = [made, split, moved] ∧
      spentIn ((start config).occurrences operations) =
        [⟨made.id, 0⟩, ⟨split.id, 1⟩, ⟨split.id, 0⟩] := by
  obtain ⟨madeSplit, madeMoved, splitMoved⟩ := differ
  have one : made.outputs.length = 1 := by
    rw [makes]
    rfl
  have both : split.outputs.length = 2 := by rw [splits, two]
  simp only [performed, occurrences, builtIn, spentIn, List.flatMap_cons, List.flatMap_nil]
  -- Each session is forgotten once its ledger is known.
  have firstBuilt := (start config).built_generation "a" owner
  have firstSpent := (start config).spent_generation "a" owner
  have firstKeeps : Keeps [] [] ⟨start config, .generation "a" owner⟩ :=
    Ledger.empty.keeps_generation (by simp)
  have firstLedger := firstKeeps.ledger
  rw [firstKeeps.registers_built, firstBuilt, firstSpent, ← makes] at firstLedger
  rw [firstBuilt, firstSpent, ← makes]
  simp only [Occurrence.step] at firstLedger
  generalize ((start config).perform (.generation "a" owner)).state = first at firstLedger ⊢
  obtain ⟨secondBuilt, secondSpent, secondLedger⟩ := firstLedger.spend_created "b" splits
    List.mem_cons_self (by simp [one]) List.not_mem_nil (by rw [two]; decide) (by simp [madeSplit])
  rw [secondBuilt, secondSpent]
  generalize (first.perform _).state = second at secondLedger ⊢
  obtain ⟨thirdBuilt, thirdSpent, thirdLedger⟩ := secondLedger.spend_created "c" moves
    List.mem_concat_self (by simp [both]) (by simp [madeSplit.symm]) short
    (by simp [madeMoved, splitMoved])
  rw [thirdBuilt, thirdSpent]
  generalize (second.perform _).state = third at thirdLedger ⊢
  have present : (third.unspent.get? ⟨split.id, 0⟩).isSome := thirdLedger.isSome_of_created
    (List.mem_append_left _ List.mem_concat_self) (by simp [both]) (by simp [madeSplit.symm])
  obtain ⟨fourthBuilt, fourthSpent⟩ := third.ordinary_of_twice "d"
    ⟨⟨split.id, 0⟩, [], Input.finalSequence⟩ present paid
  rw [fourthBuilt, fourthSpent]
  generalize (third.perform _).state = fourth
  have idle : (Operation.newBlock 7 [⟨"b", split⟩]).transacts = false := rfl
  rw [fourth.built_of_idle idle, fourth.spent_of_idle idle]
  simp

/-- A run that registers two ordinary transactions, and fails once after it has spent an
output. -/
theorem outputs_accounted_for_after_failure :
    let made := (start .default).nextGeneration (.address "o")
    let split : Transaction := ⟨1, [⟨⟨made.id, 0⟩, [], Input.finalSequence⟩],
      [⟨20, .address "o"⟩, ⟨30, .address "o"⟩], 0⟩
    let moved : Transaction := ⟨1, [⟨⟨split.id, 1⟩, [], Input.finalSequence⟩],
      [⟨30, .address "p"⟩], 0⟩
    let operations : List Operation := [
      .generation "a" (.address "o"),
      .ordinary "b" [⟨⟨made.id, 0⟩, [], Input.finalSequence⟩] split.outputs,
      .ordinary "c" [⟨⟨split.id, 1⟩, [], Input.finalSequence⟩] moved.outputs,
      .ordinary "d" [⟨⟨split.id, 0⟩, [], Input.finalSequence⟩,
        ⟨⟨split.id, 0⟩, [], Input.finalSequence⟩] moved.outputs,
      .newBlock 7 [⟨"b", split⟩]]
    let run := (start .default).occurrences operations
    operations.countP Operation.generates < UInt64.size ∧
      (∀ operation ∈ operations, operation.Own) ∧ CollisionFree (builtIn run) ∧
      registeredIn run = [made, split, moved] ∧
      spentIn run = [⟨made.id, 0⟩, ⟨split.id, 1⟩, ⟨split.id, 0⟩] ∧
      ((start .default).performAll operations).generations < UInt64.size ∧
      (spentIn run).Nodup ∧ (ordinaryInputs (registeredIn run)).Nodup ∧
      (ordinaryInputs (registeredIn run)).Sublist (spentIn run) ∧
      (∀ point output,
        (point, output) ∈ ((start .default).performAll operations).unspent.available ↔
          (∃ tx ∈ registeredIn run,
            tx.id = point.txId ∧ tx.outputs[point.index.toNat]? = some output) ∧
          point ∉ spentIn run) ∧
      (⟨moved.id, 0⟩, ⟨30, .address "p"⟩) ∈
        ((start .default).performAll operations).unspent.available ∧
      ∀ occurrence ∈ run, ∀ error, occurrence.step.result = .error error →
        error.isDuplicate = false := by
  intro made split moved operations run
  have few : operations.countP Operation.generates < UInt64.size := by decide
  have own : ∀ operation ∈ operations, operation.Own := by
    simp [operations, Operation.Own, UInt32.size, split, moved]
  have differ : made.id ≠ split.id ∧ made.id ≠ moved.id ∧ split.id ≠ moved.id :=
    first_payments_differ
  obtain ⟨built, spent⟩ : builtIn run = [made, split, moved] ∧
      spentIn run = [⟨made.id, 0⟩, ⟨split.id, 1⟩, ⟨split.id, 0⟩] :=
    occurrences_of_payments .default (.address "o") rfl rfl rfl rfl (by decide) differ
      (rfl : operations = _)
  obtain ⟨madeSplit, madeMoved, splitMoved⟩ := differ
  have collisionFree : CollisionFree (builtIn run) := by
    apply collisionFree_of_ids
    rw [built]
    simp [madeSplit, madeMoved, splitMoved, madeSplit.symm, madeMoved.symm, splitMoved.symm]
  have registered : registeredIn run = [made, split, moved] :=
    (accounted_occurrences .default operations own collisionFree).registers_built.trans built
  obtain ⟨count, spentOnce, namedOnce, allSpent, available, notDuplicate⟩ :=
    outputs_accounted_for .default operations few own collisionFree
  refine ⟨few, own, collisionFree, registered, spent, count, spentOnce, namedOnce, allSpent,
    available, ?_, notDuplicate⟩
  refine (available _ _).mpr ⟨⟨moved, ?_, rfl, rfl⟩, ?_⟩
  · rw [registered]
    simp
  · rw [spent]
    simp [madeMoved.symm, splitMoved.symm]

/-- The ids of the first two generation transactions for one owner. -/
theorem first_generations_differ :
    ((start .default).nextGeneration (.address "o")).id ≠
      ((start .default).counted.nextGeneration (.address "o")).id := by
  decide +kernel

/-- The inputs of generation transactions all name the null outpoint. -/
theorem generation_inputs_name_one_outpoint :
    let owner := Owner.address "o"
    let operations : List Operation := [.generation "a" owner, .generation "b" owner]
    let run := (start .default).occurrences operations
    operations.countP Operation.generates < UInt64.size ∧
      (∀ operation ∈ operations, operation.Own) ∧ CollisionFree (builtIn run) ∧
      ¬ ((registeredIn run).flatMap fun tx => tx.inputs.map Input.outpoint).Nodup := by
  intro owner operations run
  have own : ∀ operation ∈ operations, operation.Own := by
    simp [operations, Operation.Own]
  let first := (start .default).nextGeneration owner
  let second := (start .default).counted.nextGeneration owner
  have next : ((start .default).perform (.generation "a" owner)).state.nextGeneration owner =
      second := by
    obtain ⟨config, generations⟩ := (start .default).counted.add_state ⟨"a", first⟩
    rw [perform_generation, nextGeneration, config, generations]
    rfl
  have built : builtIn run = [first, second] := by
    simp only [run, operations, occurrences, builtIn, List.flatMap_cons, built_generation, next]
    rfl
  have differ : first.id ≠ second.id := first_generations_differ
  have collisionFree : CollisionFree (builtIn run) := by
    apply collisionFree_of_ids
    simp [built, differ, differ.symm]
  have accounted := accounted_occurrences .default operations own collisionFree
  refine ⟨by decide, own, collisionFree, ?_⟩
  rw [accounted.registers_built, built]
  decide

end Session
end PocketLedger
