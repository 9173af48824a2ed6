import PocketLedger.Session
import PocketLedger.Proofs.ChainHistory
import PocketLedger.Proofs.Digest
import PocketLedger.Proofs.UnspentMap

/-!
# Runs of a session

A run is a list of operations, performed one after the other whether they succeed or fail. Each
operation of a run occurs in the session that the ones before it left, and from its occurrences
everything that a run did can be told: what it built, what it registered and what it spent.
-/

namespace PocketLedger

/-! ## Steps -/

namespace Step

variable {σ τ ε δ α β : Type}

/-- What follows a part of the whole that succeeded. -/
theorem within_andThen_of_ok {part : Step σ ε α} {value : α} (succeeded : part.result = .ok value)
    (place : σ → τ) (wrap : ε → δ) (next : τ → α → Step τ δ β) :
    (part.within place wrap).andThen next =
      ⟨(next (place part.state) value).state,
        part.notices ++ (next (place part.state) value).notices,
        (next (place part.state) value).result⟩ := by
  simp only [andThen, within, succeeded, Except.mapError]

/-- What is left when a part of the whole failed. -/
theorem within_andThen_of_error {part : Step σ ε α} {error : ε}
    (failed : part.result = .error error) (place : σ → τ) (wrap : ε → δ)
    (next : τ → α → Step τ δ β) :
    (part.within place wrap).andThen next =
      ⟨place part.state, part.notices, .error (wrap error)⟩ := by
  simp only [andThen, within, failed, Except.mapError]

/-- A value at the end changes nothing but the result. -/
@[simp]
theorem andThen_done (first : Step σ ε α) (value : α → β) :
    (first.andThen fun state a => .done state (value a)) =
      ⟨first.state, first.notices, first.result.map value⟩ := by
  unfold andThen
  cases first.result with
  | error error => rfl
  | ok a => simp [done, Except.map]

end Step

/-! ## Operations -/

/-- An operation that a session can be asked for. -/
inductive Operation where
  | listen (listener : Listener)
  | add (named : NamedTransaction)
  | ordinary (name : String) (spends : List Spend) (outputs : List Output)
  | generation (name : String) (owner : Owner)
  | buildBlock (now : UInt64) (transactions : List NamedTransaction)
  | buildBlockOn (now : UInt64) (previous : Digest) (transactions : List NamedTransaction)
  | acceptBlock (block : Block)
  | newBlock (now : UInt64) (transactions : List NamedTransaction)

/-- Whether an operation makes or registers a transaction. -/
def Operation.transacts : Operation → Bool
  | .add _ | .ordinary .. | .generation .. => true
  | _ => false

/-- Whether an operation makes a generation transaction. -/
def Operation.generates : Operation → Bool
  | .generation .. => true
  | _ => false

/-- What a successful operation came to. -/
inductive Outcome where
  | nothing
  | registered (named : NamedTransaction)
  | built (block : Block)
  | accepted (height : UInt64)

namespace Session

/-- Perform an operation. -/
def perform (session : Session) : Operation → Step Session SessionError Outcome
  | .listen listener => .done (session.listen listener) .nothing
  | .add named =>
    (session.add named).andThen fun session () => .done session (.registered named)
  | .ordinary name spends outputs =>
    (session.ordinary name spends outputs).andThen fun session named =>
      .done session (.registered named)
  | .generation name owner =>
    (session.generation name owner).andThen fun session named => .done session (.registered named)
  | .buildBlock now transactions =>
    ⟨session, [], ((session.buildBlock now transactions).mapError .block).map .built⟩
  | .buildBlockOn now previous transactions =>
    ⟨session, [], ((session.buildBlockOn now previous transactions).mapError .block).map .built⟩
  | .acceptBlock block =>
    (session.acceptBlock block).andThen fun session height => .done session (.accepted height)
  | .newBlock now transactions =>
    (session.newBlock now transactions).andThen fun session block => .done session (.built block)

/-- The session after operations in order. -/
def performAll (session : Session) (operations : List Operation) : Session :=
  operations.foldl (fun session operation => (session.perform operation).state) session

/-- The draft that an operation hands over to be built, if it gets so far. -/
def draft? (session : Session) : Operation → Option Draft
  | .ordinary name spends outputs =>
    (session.draftOrdinary name spends outputs).result.toOption
  | .generation _ owner => (session.draftGeneration owner).result.toOption
  | _ => none

end Session

/-! ## Occurrences -/

/-- An operation in the session that it finds. -/
structure Occurrence where
  before : Session
  operation : Operation

namespace Occurrence

/-- What the operation did. -/
def step (occurrence : Occurrence) : Step Session SessionError Outcome :=
  occurrence.before.perform occurrence.operation

/-- The transaction that was built, whether or not it could be registered. -/
def built (occurrence : Occurrence) : List Transaction :=
  ((occurrence.before.draft? occurrence.operation).bind fun draft =>
    draft.build.toOption).toList

/-- The transaction that was registered. -/
def registered (occurrence : Occurrence) : List Transaction :=
  match occurrence.step.result with
  | .ok (.registered named) => [named.transaction]
  | _ => []

/-- The outpoints that were spent, also if the operation then failed. -/
def spent (occurrence : Occurrence) : List OutPoint := spentPoints occurrence.step.notices

/-- An operation that fails registers nothing. -/
theorem registered_of_failed {occurrence : Occurrence} {error : SessionError}
    (failed : occurrence.step.result = .error error) : occurrence.registered = [] := by
  rw [registered, failed]

end Occurrence

namespace Session

/-- The operations of a run, each where it occurs. -/
def occurrences (session : Session) : List Operation → List Occurrence
  | [] => []
  | first :: rest => ⟨session, first⟩ :: (session.perform first).state.occurrences rest

theorem performAll_cons (session : Session) (first : Operation) (rest : List Operation) :
    session.performAll (first :: rest) = (session.perform first).state.performAll rest := rfl

theorem performAll_nil (session : Session) : session.performAll [] = session := rfl

theorem performAll_concat (session : Session) (operations : List Operation) (last : Operation) :
    session.performAll (operations ++ [last]) =
      ((session.performAll operations).perform last).state := by
  rw [performAll, performAll, List.foldl_append, List.foldl_cons, List.foldl_nil]

theorem occurrences_concat (session : Session) (operations : List Operation) (last : Operation) :
    session.occurrences (operations ++ [last]) =
      session.occurrences operations ++ [⟨session.performAll operations, last⟩] := by
  induction operations generalizing session with
  | nil => rfl
  | cons first rest ih =>
    rw [List.cons_append, occurrences, ih]
    rfl

/-- An operation occurs in the session that the ones before it left. -/
theorem getElem?_occurrences (session : Session) (operations : List Operation) (position : Nat) :
    (session.occurrences operations)[position]? = operations[position]?.map fun operation =>
      ⟨session.performAll (operations.take position), operation⟩ := by
  induction operations generalizing session position with
  | nil => rfl
  | cons first rest ih =>
    cases position with
    | zero => rfl
    | succ position => exact ih _ position

end Session

/-! ## Runs -/

/-- The transactions built in a run. -/
def builtIn (run : List Occurrence) : List Transaction := run.flatMap Occurrence.built

/-- The transactions registered in a run. -/
def registeredIn (run : List Occurrence) : List Transaction := run.flatMap Occurrence.registered

/-- The outpoints spent in a run. -/
def spentIn (run : List Occurrence) : List OutPoint := run.flatMap Occurrence.spent

section Concat

variable (run : List Occurrence) (last : Occurrence)

@[simp]
theorem builtIn_concat : builtIn (run ++ [last]) = builtIn run ++ last.built := by
  simp [builtIn]

@[simp]
theorem registeredIn_concat : registeredIn (run ++ [last]) = registeredIn run ++ last.registered := by
  simp [registeredIn]

@[simp]
theorem spentIn_concat : spentIn (run ++ [last]) = spentIn run ++ last.spent := by
  simp [spentIn]

end Concat

/-! ## What transaction operations do -/

/-- Inputs that all spend make a transaction. -/
theorem Draft.build_of_spending {draft : Draft} (nonempty : draft.inputs ≠ [])
    (spending : ∀ input ∈ draft.inputs, input.isGeneration = false) :
    draft.build = .ok ⟨draft.version, draft.inputs, draft.outputs, draft.locktime⟩ := by
  have spendingOnly : draft.inputs.any Input.isGeneration = false :=
    List.any_eq_false.mpr fun input mem => by simp [spending input mem]
  rw [build, if_neg nonempty, if_neg (fun both => by simp [spendingOnly] at both)]

/-- What a draft becomes, if it becomes something. -/
theorem Draft.eq_of_build {draft : Draft} {tx : Transaction} (built : draft.build = .ok tx) :
    tx = ⟨draft.version, draft.inputs, draft.outputs, draft.locktime⟩ := by
  unfold build at built
  split at built
  · cases built
  · split at built
    · cases built
    · exact (Except.ok.inj built).symm

/-- A single input makes a transaction. -/
theorem Draft.build_of_single {draft : Draft} {input : Input} (single : draft.inputs = [input]) :
    draft.build = .ok ⟨draft.version, draft.inputs, draft.outputs, draft.locktime⟩ := by
  rw [build, if_neg (by simp [single]), if_neg (by simp [single])]

namespace Session

/-- A transaction is registered if all its outputs can be added, and what was added before a
failure stays. -/
theorem add_cases (session : Session) (named : NamedTransaction) :
    (∃ error, (session.unspent.addOutputs named.transaction).result = .error error ∧
      session.add named =
        ⟨{ session with unspent := (session.unspent.addOutputs named.transaction).state },
          (session.unspent.addOutputs named.transaction).notices, .error (.unspent error)⟩) ∨
    ((session.unspent.addOutputs named.transaction).result = .ok () ∧
      session.add named =
        ⟨publish { session with unspent := (session.unspent.addOutputs named.transaction).state }
            named.transaction,
          (session.unspent.addOutputs named.transaction).notices ++
            [.transactionAdded named.name named.transaction.id], .ok ()⟩) := by
  unfold add
  cases added : (session.unspent.addOutputs named.transaction).result with
  | error error => exact .inl ⟨error, rfl, Step.within_andThen_of_error added _ _ _⟩
  | ok _ => exact .inr ⟨rfl, Step.within_andThen_of_ok added _ _ _⟩

/-- Registering a transaction changes the outputs as adding its outputs does. -/
theorem add_unspent (session : Session) (named : NamedTransaction) :
    (session.add named).state.unspent = (session.unspent.addOutputs named.transaction).state := by
  rcases session.add_cases named with ⟨_, _, step⟩ | ⟨_, step⟩
  · rw [step]
  · rw [step]
    rfl

/-- A transaction is registered exactly if its outputs can be added. -/
theorem add_ok_iff (session : Session) (named : NamedTransaction) :
    (session.add named).result = .ok () ↔
      (session.unspent.addOutputs named.transaction).result = .ok () := by
  rcases session.add_cases named with ⟨error, failed, step⟩ | ⟨added, step⟩
  · rw [step, failed]
    exact ⟨nofun, nofun⟩
  · exact ⟨fun _ => added, fun _ => by rw [step]⟩

/-- A transaction whose outputs can be added is registered. -/
theorem add_of_ok (session : Session) (named : NamedTransaction)
    (added : (session.unspent.addOutputs named.transaction).result = .ok ()) :
    (session.add named).result = .ok () ∧
      (session.add named).state.unspent = (session.unspent.addOutputs named.transaction).state :=
  ⟨(session.add_ok_iff named).mpr added, session.add_unspent named⟩

/-- Registering a transaction changes neither the parameters nor the count of generations. -/
theorem add_state (session : Session) (named : NamedTransaction) :
    (session.add named).state.config = session.config ∧
      (session.add named).state.generations = session.generations := by
  rcases session.add_cases named with ⟨_, _, step⟩ | ⟨_, step⟩
  · rw [step]
    exact ⟨rfl, rfl⟩
  · rw [step]
    exact ⟨rfl, rfl⟩

/-- Registering a transaction spends nothing. -/
theorem spentPoints_add (session : Session) (named : NamedTransaction) :
    spentPoints (session.add named).notices = [] := by
  rcases session.add_cases named with ⟨_, _, step⟩ | ⟨_, step⟩
  · rw [step]
    exact Unspent.spentPoints_addFrom ..
  · rw [step, spentPoints_append, Unspent.addOutputs, Unspent.spentPoints_addFrom]
    rfl

/-- A draft that can be built is registered. -/
theorem complete_of_build {draft : Draft} {tx : Transaction} (built : draft.build = .ok tx)
    (session : Session) (name : String) :
    session.complete name draft = ⟨(session.add ⟨name, tx⟩).state, (session.add ⟨name, tx⟩).notices,
      (session.add ⟨name, tx⟩).result.map fun _ => ⟨name, tx⟩⟩ := by
  rw [complete, built]
  exact Step.andThen_done _ _

/-- An ordinary transaction is drafted from nothing, misses an outpoint, or spends everything it
was asked to. -/
theorem draftOrdinary_cases (session : Session) (name : String) (spends : List Spend)
    (outputs : List Output) :
    (spends = [] ∧ session.draftOrdinary name spends outputs =
      .failed session (.transaction (.shape (.nothingSpent name)))) ∨
    (∃ point, (Draft.empty.spendAll spends session.unspent).result =
        .error (.unspent (.unknown point)) ∧
      session.draftOrdinary name spends outputs =
        ⟨{ session with unspent := (Draft.empty.spendAll spends session.unspent).state },
          (Draft.empty.spendAll spends session.unspent).notices,
          .error (.transaction (.unspent (.unknown point)))⟩) ∨
    (spends ≠ [] ∧
      (Draft.empty.spendAll spends session.unspent).result =
        .ok ⟨Transaction.currentVersion, spends.map Spend.input, [], 0⟩ ∧
      session.unspent.taken (spends.map Spend.outpoint) = spends.map Spend.outpoint ∧
      session.draftOrdinary name spends outputs =
        ⟨{ session with unspent := (Draft.empty.spendAll spends session.unspent).state },
          (Draft.empty.spendAll spends session.unspent).notices,
          .ok ⟨Transaction.currentVersion, spends.map Spend.input, outputs, 0⟩⟩) := by
  by_cases nothing : spends = []
  · exact .inl ⟨nothing, by rw [draftOrdinary, if_pos nothing]⟩
  · right
    rw [draftOrdinary, if_neg nothing]
    rcases Draft.spendAll_result Draft.empty spends session.unspent with
      ⟨result, all⟩ | ⟨point, result⟩
    · right
      refine ⟨nothing, result, all, ?_⟩
      rw [Step.within_andThen_of_ok result, Draft.payAll_eq]
      simp only [Step.done, List.append_nil]
      rfl
    · left
      exact ⟨point, result, Step.within_andThen_of_error result _ _ _⟩

/-- An ordinary transaction spends nothing, misses an outpoint, or spends everything it was
asked to and is completed. -/
theorem ordinary_cases (session : Session) (name : String) (spends : List Spend)
    (outputs : List Output) :
    (spends = [] ∧ session.ordinary name spends outputs =
      .failed session (.transaction (.shape (.nothingSpent name)))) ∨
    (∃ point, (Draft.empty.spendAll spends session.unspent).result =
        .error (.unspent (.unknown point)) ∧
      session.ordinary name spends outputs =
        ⟨{ session with unspent := (Draft.empty.spendAll spends session.unspent).state },
          (Draft.empty.spendAll spends session.unspent).notices,
          .error (.transaction (.unspent (.unknown point)))⟩) ∨
    (spends ≠ [] ∧
      (Draft.empty.spendAll spends session.unspent).result =
        .ok ⟨Transaction.currentVersion, spends.map Spend.input, [], 0⟩ ∧
      session.unspent.taken (spends.map Spend.outpoint) = spends.map Spend.outpoint ∧
      session.ordinary name spends outputs =
        let completed := complete
          { session with unspent := (Draft.empty.spendAll spends session.unspent).state } name
          ⟨Transaction.currentVersion, spends.map Spend.input, outputs, 0⟩
        ⟨completed.state,
          (Draft.empty.spendAll spends session.unspent).notices ++ completed.notices,
          completed.result⟩) := by
  rcases session.draftOrdinary_cases name spends outputs with
    ⟨nothing, draft⟩ | ⟨point, missing, draft⟩ | ⟨nonempty, result, all, draft⟩
  · exact .inl ⟨nothing, by rw [ordinary, draft]; rfl⟩
  · exact .inr (.inl ⟨point, missing, by rw [ordinary, draft]; rfl⟩)
  · exact .inr (.inr ⟨nonempty, result, all, by rw [ordinary, draft]; rfl⟩)

/-- What an operation that registers a given transaction does. -/
theorem perform_add (session : Session) (named : NamedTransaction) :
    session.perform (.add named) = ⟨(session.add named).state, (session.add named).notices,
      (session.add named).result.map fun _ => .registered named⟩ :=
  Step.andThen_done _ _

/-- What an operation that makes an ordinary transaction does. It spends what it can, and then it
fails or registers the transaction. -/
theorem perform_ordinary_cases (session : Session) (name : String) (spends : List Spend)
    (outputs : List Output) :
    let spent := Draft.empty.spendAll spends session.unspent
    let left := { session with unspent := spent.state }
    let named : NamedTransaction :=
      ⟨name, ⟨Transaction.currentVersion, spends.map Spend.input, outputs, 0⟩⟩
    (∃ error, session.perform (.ordinary name spends outputs) =
      ⟨left, spent.notices, .error error⟩) ∨
    session.perform (.ordinary name spends outputs) = ⟨(left.add named).state,
      spent.notices ++ (left.add named).notices,
      (left.add named).result.map fun _ => .registered named⟩ := by
  intro spent left named
  have step : session.perform (.ordinary name spends outputs) =
      ⟨(session.ordinary name spends outputs).state, (session.ordinary name spends outputs).notices,
        (session.ordinary name spends outputs).result.map .registered⟩ := Step.andThen_done _ _
  rcases session.ordinary_cases name spends outputs with
    ⟨rfl, failed⟩ | ⟨point, _, failed⟩ | ⟨_, _, _, completed⟩
  · rw [failed] at step
    exact .inl ⟨_, step⟩
  · rw [failed] at step
    exact .inl ⟨_, step⟩
  · rw [completed] at step
    cases built : Draft.build ⟨Transaction.currentVersion, spends.map Spend.input, outputs, 0⟩ with
    | error error =>
      rw [complete, built] at step
      refine .inl ⟨.transaction error, step.trans ?_⟩
      simp [Step.failed, Except.map, left, spent]
    | ok tx =>
      have same : named = ⟨name, tx⟩ := by rw [Draft.eq_of_build built]
      rw [complete_of_build built, ← same] at step
      refine .inr (step.trans ?_)
      cases (left.add named).result <;> rfl

/-- An ordinary transaction spends what it can take, whether or not it is registered then. -/
theorem spent_ordinary (session : Session) (name : String) (spends : List Spend)
    (outputs : List Output) :
    Occurrence.spent ⟨session, .ordinary name spends outputs⟩ =
      session.unspent.taken (spends.map Spend.outpoint) := by
  rw [Occurrence.spent, Occurrence.step]
  rcases session.perform_ordinary_cases name spends outputs with ⟨error, step⟩ | step
  · rw [step, Draft.spentPoints_spendAll]
  · rw [step, spentPoints_append, spentPoints_add, Draft.spentPoints_spendAll, List.append_nil]

/-- The next generation transaction of a session, for an owner. -/
def nextGeneration (session : Session) (owner : Owner) : Transaction :=
  ⟨Transaction.currentVersion,
    [⟨OutPoint.null, marker (session.generations + 1), Input.finalSequence⟩],
    [⟨session.config.reward, owner⟩], 0⟩

/-- The draft of a generation transaction can always be built. -/
theorem build_generation (session : Session) (owner : Owner) :
    ((Draft.empty.generate (marker (session.generations + 1))).pay
      ⟨session.config.reward, owner⟩).build = .ok (session.nextGeneration owner) :=
  Draft.build_of_single rfl

/-- The session that has counted one more generation transaction. -/
def counted (session : Session) : Session := { session with generations := session.generations + 1 }

/-- A generation transaction is counted and registered. -/
theorem generation_eq (session : Session) (name : String) (owner : Owner) :
    session.generation name owner =
      ⟨(session.counted.add ⟨name, session.nextGeneration owner⟩).state,
        (session.counted.add ⟨name, session.nextGeneration owner⟩).notices,
        (session.counted.add ⟨name, session.nextGeneration owner⟩).result.map fun _ =>
          ⟨name, session.nextGeneration owner⟩⟩ :=
  complete_of_build (session.build_generation owner) _ name

theorem built_generation (session : Session) (name : String) (owner : Owner) :
    Occurrence.built ⟨session, .generation name owner⟩ = [session.nextGeneration owner] := by
  rw [Occurrence.built, draft?]
  exact congrArg (fun built => built.toOption.toList) (session.build_generation owner)

/-- What an operation that makes a generation transaction does. -/
theorem perform_generation (session : Session) (name : String) (owner : Owner) :
    session.perform (.generation name owner) =
      ⟨(session.counted.add ⟨name, session.nextGeneration owner⟩).state,
        (session.counted.add ⟨name, session.nextGeneration owner⟩).notices,
        (session.counted.add ⟨name, session.nextGeneration owner⟩).result.map fun _ =>
          .registered ⟨name, session.nextGeneration owner⟩⟩ := by
  rw [perform, Step.andThen_done, generation_eq]
  cases (session.counted.add ⟨name, session.nextGeneration owner⟩).result <;> rfl

/-- A generation transaction spends nothing. -/
theorem spent_generation (session : Session) (name : String) (owner : Owner) :
    Occurrence.spent ⟨session, .generation name owner⟩ = [] := by
  rw [Occurrence.spent, Occurrence.step, perform_generation]
  exact spentPoints_add _ _

/-- What an ordinary transaction builds once it is drafted. -/
theorem built_ordinary_of_ok {session : Session} {name : String} {spends : List Spend}
    {outputs : List Output} {draft : Draft}
    (result : (session.draftOrdinary name spends outputs).result = .ok draft) :
    Occurrence.built ⟨session, .ordinary name spends outputs⟩ = draft.build.toOption.toList := by
  rw [Occurrence.built, draft?, result]
  rfl

/-- An ordinary transaction that could not be drafted is not built. -/
theorem built_ordinary_of_error {session : Session} {name : String} {spends : List Spend}
    {outputs : List Output} {error : SessionError}
    (failed : (session.draftOrdinary name spends outputs).result = .error error) :
    Occurrence.built ⟨session, .ordinary name spends outputs⟩ = [] := by
  rw [Occurrence.built, draft?, failed]
  rfl

/-- An ordinary transaction that names an outpoint twice is not built. -/
theorem built_ordinary_of_repeated (session : Session) (name : String) {spends : List Spend}
    (outputs : List Output) (repeated : ¬ (spends.map Spend.outpoint).Nodup) :
    Occurrence.built ⟨session, .ordinary name spends outputs⟩ = [] := by
  rcases session.draftOrdinary_cases name spends outputs with
    ⟨_, draft⟩ | ⟨point, _, draft⟩ | ⟨_, _, all, _⟩
  · exact built_ordinary_of_error (by rw [draft]; rfl)
  · exact built_ordinary_of_error (by rw [draft])
  · have once := session.unspent.nodup_taken (spends.map Spend.outpoint)
    rw [all] at once
    exact absurd once repeated

/-- Different generations of a session have different markers. -/
theorem marker_injective {left right : Nat} (same : marker left = marker right) : left = right := by
  have texts := congrArg String.toList (Bytes.ofText_injective same)
  simp only [String.toList_append, List.append_assoc, List.append_cancel_left_eq,
    List.append_cancel_right_eq] at texts
  simp only [Nat.toString_eq_repr, Nat.toList_repr] at texts
  exact Text.toDigits_injective (by decide) (by decide) texts

end Session

/-! ## What block operations do -/

namespace Session

/-- The session that has put a block on its tip, at a height, and announced what it finds
there. -/
def extended (session : Session) (block : Block) (height : UInt64) : Session :=
  { session with
    chain := session.chain.extend block height
    announcer := session.announcer.announceAll
      (blockEvents (session.chain.extend block height) height) }

@[simp]
theorem extended_tip (session : Session) (block : Block) (height : UInt64) :
    (session.extended block height).chain.tip = block.id := rfl

/-- A block is refused without any change, or put on the tip and announced. -/
theorem acceptBlock_cases (session : Session) (block : Block) :
    (∃ error, session.acceptBlock block = .failed session (.block error)) ∨
    (block.header.previous = session.chain.tip ∧
      (session.chain.height + 1).toNat = session.chain.height.toNat + 1 ∧
      session.acceptBlock block = ⟨session.extended block (session.chain.height + 1),
        [.blockAccepted block.id (session.chain.height + 1),
          .chainAdvanced (session.chain.height + 1)], .ok (session.chain.height + 1)⟩) := by
  unfold acceptBlock
  rcases session.chain.accept_cases block with ⟨_, step⟩ | ⟨_, _, step⟩ | ⟨onTip, above, step⟩
  · exact .inl ⟨_, by rw [step]; rfl⟩
  · exact .inl ⟨_, by rw [step]; rfl⟩
  · exact .inr ⟨onTip, above, by rw [step]; rfl⟩

/-- A block that does not name the tip is refused for that. -/
theorem acceptBlock_of_offTip {session : Session} {block : Block}
    (off : block.header.previous ≠ session.chain.tip) :
    session.acceptBlock block =
      .failed session (.block (.notOnTip session.chain.tip block.header.previous)) := by
  rw [acceptBlock, Chain.accept, if_pos off]
  rfl

/-- A block that names the tip is accepted as long as there is a height above. -/
theorem acceptBlock_of_onTip {session : Session} {block : Block}
    (onTip : block.header.previous = session.chain.tip)
    (room : session.chain.height.toNat + 1 ≠ UInt64.size) :
    session.acceptBlock block = ⟨session.extended block (session.chain.height + 1),
      [.blockAccepted block.id (session.chain.height + 1),
        .chainAdvanced (session.chain.height + 1)], .ok (session.chain.height + 1)⟩ := by
  rw [acceptBlock, Chain.accept, if_neg (not_not_intro onTip), if_neg room]
  rfl

/-- A new block is not built, without any change, or it is built on the tip and accepted or
refused as any block. -/
theorem newBlock_cases (session : Session) (now : UInt64) (transactions : List NamedTransaction) :
    (∃ error, session.newBlock now transactions = .failed session (.block error)) ∨
    (∃ block, session.buildBlock now transactions = .ok block ∧
      session.newBlock now transactions = ⟨(session.acceptBlock block).state,
        (session.acceptBlock block).notices, (session.acceptBlock block).result.map fun _ => block⟩) := by
  unfold newBlock
  cases built : session.buildBlock now transactions with
  | error error => exact .inl ⟨error, rfl⟩
  | ok block => exact .inr ⟨block, rfl, Step.andThen_done _ _⟩

/-- A step that leaves the outputs alone: it registers no transaction, and fails for a block
only. -/
structure LeavesOutputs (session : Session) (step : Step Session SessionError Outcome) : Prop where
  unspent : step.state.unspent = session.unspent
  generations : step.state.generations = session.generations
  spends_nothing : spentPoints step.notices = []
  registers_nothing : ∀ named, step.result ≠ .ok (.registered named)
  fails_for_block : ∀ error, step.result = .error error → ∃ reason, error = .block reason

theorem leavesOutputs_of_refused (session : Session) (reason : BlockError) :
    session.LeavesOutputs (.failed session (.block reason)) :=
  ⟨rfl, rfl, rfl, nofun, fun _ same => ⟨reason, (Except.error.inj same).symm⟩⟩

/-- Listening and all operations on blocks build no transaction. -/
theorem built_of_idle (session : Session) {operation : Operation}
    (idle : operation.transacts = false) : Occurrence.built ⟨session, operation⟩ = [] := by
  cases operation with
  | add => cases idle
  | ordinary => cases idle
  | generation => cases idle
  | listen | buildBlock | buildBlockOn | acceptBlock | newBlock => rfl

/-- Listening and all operations on blocks leave the outputs alone. -/
theorem perform_leavesOutputs (session : Session) {operation : Operation}
    (idle : operation.transacts = false) :
    session.LeavesOutputs (session.perform operation) := by
  cases operation with
  | add => cases idle
  | ordinary => cases idle
  | generation => cases idle
  | listen listener => exact ⟨rfl, rfl, rfl, nofun, nofun⟩
  | buildBlock now transactions =>
    rw [perform]
    cases session.buildBlock now transactions with
    | error reason => exact session.leavesOutputs_of_refused reason
    | ok block => exact ⟨rfl, rfl, rfl, nofun, nofun⟩
  | buildBlockOn now previous transactions =>
    rw [perform]
    cases session.buildBlockOn now previous transactions with
    | error reason => exact session.leavesOutputs_of_refused reason
    | ok block => exact ⟨rfl, rfl, rfl, nofun, nofun⟩
  | acceptBlock block =>
    rw [perform, Step.andThen_done]
    rcases session.acceptBlock_cases block with ⟨reason, step⟩ | ⟨_, _, step⟩
    · rw [step]
      exact session.leavesOutputs_of_refused reason
    · rw [step]
      exact ⟨rfl, rfl, rfl, nofun, nofun⟩
  | newBlock now transactions =>
    rw [perform, Step.andThen_done]
    rcases session.newBlock_cases now transactions with ⟨reason, step⟩ | ⟨block, _, step⟩
    · rw [step]
      exact session.leavesOutputs_of_refused reason
    · rw [step]
      rcases session.acceptBlock_cases block with ⟨reason, accepted⟩ | ⟨_, _, accepted⟩
      · rw [accepted]
        exact session.leavesOutputs_of_refused reason
      · rw [accepted]
        exact ⟨rfl, rfl, rfl, nofun, nofun⟩

/-- Listening and all operations on blocks spend nothing. -/
theorem spent_of_idle (session : Session) {operation : Operation}
    (idle : operation.transacts = false) : Occurrence.spent ⟨session, operation⟩ = [] := by
  rw [Occurrence.spent, Occurrence.step]
  exact (session.perform_leavesOutputs idle).spends_nothing

/-- Listening and all operations on blocks register nothing. -/
theorem registered_of_idle (session : Session) {operation : Operation}
    (idle : operation.transacts = false) : Occurrence.registered ⟨session, operation⟩ = [] := by
  unfold Occurrence.registered
  split
  next named succeeded =>
    exact absurd succeeded ((session.perform_leavesOutputs idle).registers_nothing named)
  next => rfl

end Session

/-! ## The count of generation transactions -/

namespace Session

/-- An operation is counted if it makes a generation transaction, also where that fails. -/
theorem perform_generations (session : Session) (operation : Operation) :
    (session.perform operation).state.generations =
      session.generations + if operation.generates then 1 else 0 := by
  cases operation with
  | listen | buildBlock | buildBlockOn | acceptBlock | newBlock =>
    exact (session.perform_leavesOutputs rfl).generations
  | add named =>
    rw [session.perform_add named]
    exact (session.add_state named).2
  | ordinary name spends outputs =>
    rcases session.perform_ordinary_cases name spends outputs with ⟨error, step⟩ | step
    · rw [step]
      rfl
    · rw [step]
      exact (add_state _ _).2
  | generation name owner =>
    rw [session.perform_generation name owner]
    exact (session.counted.add_state _).2

/-- A run counts its operations that make generation transactions. -/
theorem performAll_generations (session : Session) (operations : List Operation) :
    (session.performAll operations).generations =
      session.generations + operations.countP Operation.generates := by
  induction operations generalizing session with
  | nil => rfl
  | cons first rest ih =>
    rw [performAll_cons, ih, perform_generations, List.countP_cons]
    omega

end Session
end PocketLedger
