import PocketLedger.Proofs.SessionRun
import Mathlib.Data.List.Induction

/-!
# The chain of a session

What an operation does to the chain and to the listeners is one of four things, which
`Occurrence.Effect` lists. The chain of a session therefore tells the history of the blocks
that its run accepted, whatever else was asked for and refused in between.
-/

namespace PocketLedger

/-! ## What an operation does to the chain -/

/-- The listener that an operation adds. -/
def Operation.listeners : Operation → List Listener
  | .listen listener => [listener]
  | _ => []

namespace Occurrence

/-- The block that was accepted, with its height. -/
def accepted (occurrence : Occurrence) : List PlacedBlock :=
  match occurrence.operation, occurrence.step.result with
  | .acceptBlock block, .ok (.accepted height) => [⟨height, block⟩]
  | .newBlock .., .ok (.built block) => [⟨occurrence.before.chain.height + 1, block⟩]
  | _, _ => []

/-- What an operation does to the chain and to the listeners, and what counts as registered and
as accepted by it. No operation changes the parameters. -/
inductive Effect (occurrence : Occurrence) : Prop where
  /-- The operation fails, or builds a block without accepting it. -/
  | quiet (listeners : occurrence.operation.listeners = [])
      (config : occurrence.step.state.config = occurrence.before.config)
      (registered : occurrence.registered = []) (accepted : occurrence.accepted = [])
      (chain : occurrence.step.state.chain = occurrence.before.chain)
      (announcer : occurrence.step.state.announcer = occurrence.before.announcer)
  | listens (listener : Listener) (operation : occurrence.operation = .listen listener)
  | registers (tx : Transaction) (listeners : occurrence.operation.listeners = [])
      (config : occurrence.step.state.config = occurrence.before.config)
      (registered : occurrence.registered = [tx]) (accepted : occurrence.accepted = [])
      (chain : occurrence.step.state.chain = occurrence.before.chain.register tx.id tx)
      (announcer : occurrence.step.state.announcer = occurrence.before.announcer.announce
        ⟨occurrence.before.chain.register tx.id tx, tx.id, tx, none, none⟩)
  | accepts (block : Block) (height : UInt64) (listeners : occurrence.operation.listeners = [])
      (config : occurrence.step.state.config = occurrence.before.config)
      (registered : occurrence.registered = []) (accepted : occurrence.accepted = [⟨height, block⟩])
      (onTip : block.header.previous = occurrence.before.chain.tip)
      (above : height.toNat = occurrence.before.chain.height.toNat + 1)
      (chain : occurrence.step.state.chain = occurrence.before.chain.extend block height)
      (announcer : occurrence.step.state.announcer = occurrence.before.announcer.announceAll
        (Session.blockEvents (occurrence.before.chain.extend block height) height))

end Occurrence

namespace Session

/-- Registering a transaction fails and leaves chain and listeners alone, or makes the
transaction known and announces it. -/
theorem add_chain_cases (session : Session) (named : NamedTransaction) :
    (∃ error, (session.add named).result = .error error ∧
      (session.add named).state.chain = session.chain ∧
      (session.add named).state.announcer = session.announcer) ∨
    ((session.add named).result = .ok () ∧
      (session.add named).state.chain =
        session.chain.register named.transaction.id named.transaction ∧
      (session.add named).state.announcer = session.announcer.announce
        ⟨session.chain.register named.transaction.id named.transaction, named.transaction.id,
          named.transaction, none, none⟩) := by
  rcases session.add_cases named with ⟨error, _, step⟩ | ⟨_, step⟩
  · rw [step]
    exact .inl ⟨.unspent error, rfl, rfl, rfl⟩
  · rw [step]
    exact .inr ⟨rfl, rfl, rfl⟩

end Session

namespace Occurrence

/-- An operation that fails accepts nothing. -/
theorem accepted_of_failed {occurrence : Occurrence} {error : SessionError}
    (failed : occurrence.step.result = .error error) : occurrence.accepted = [] := by
  unfold accepted
  rw [failed]
  split <;> simp_all

/-- An operation that fails leaves the chain alone, and all that listeners have or hear. -/
theorem Effect.unchanged_of_failed {occurrence : Occurrence} (effect : occurrence.Effect)
    {error : SessionError} (failed : occurrence.step.result = .error error) :
    occurrence.step.state.chain = occurrence.before.chain ∧
      occurrence.step.state.announcer = occurrence.before.announcer := by
  cases effect with
  | quiet _ _ _ _ chain announcer => exact ⟨chain, announcer⟩
  | listens listener operation =>
    obtain ⟨session, _⟩ := occurrence
    cases operation
    cases failed
  | registers tx _ _ registered =>
    rw [registered_of_failed failed] at registered
    cases registered
  | accepts block height _ _ _ accepted =>
    rw [accepted_of_failed failed] at accepted
    cases accepted

/-- An operation that fails and leaves chain and listeners alone is quiet. -/
theorem effect_of_failed {occurrence : Occurrence} {state : Session} {notices : List Notice}
    {error : SessionError} (step : occurrence.step = ⟨state, notices, .error error⟩)
    (listeners : occurrence.operation.listeners = [])
    (config : state.config = occurrence.before.config)
    (chain : state.chain = occurrence.before.chain)
    (announcer : state.announcer = occurrence.before.announcer) : occurrence.Effect := by
  have failed : occurrence.step.result = .error error := by rw [step]
  exact .quiet listeners (by rw [step, config]) (registered_of_failed failed)
    (accepted_of_failed failed) (by rw [step, chain]) (by rw [step, announcer])

/-- An operation that comes down to registering a transaction, in a session with the same
parameters, chain and listeners. -/
theorem effect_of_add {occurrence : Occurrence} (session : Session) (named : NamedTransaction)
    {notices : List Notice} (step : occurrence.step = ⟨(session.add named).state, notices,
      (session.add named).result.map fun _ => .registered named⟩)
    (transacts : occurrence.operation.transacts = true)
    (sameConfig : session.config = occurrence.before.config)
    (sameChain : session.chain = occurrence.before.chain)
    (sameAnnouncer : session.announcer = occurrence.before.announcer) : occurrence.Effect := by
  have listeners : occurrence.operation.listeners = [] := by
    cases same : occurrence.operation <;> simp_all [Operation.transacts, Operation.listeners]
  have config := (session.add_state named).1.trans sameConfig
  rcases session.add_chain_cases named with ⟨error, failed, chain, announcer⟩ | ⟨ok, chain, announcer⟩
  · rw [failed] at step
    exact effect_of_failed step listeners config (chain.trans sameChain)
      (announcer.trans sameAnnouncer)
  · rw [ok] at step
    refine .registers named.transaction listeners ?_ ?_ ?_ ?_ ?_
    · rw [step, config]
    · rw [registered, step]
      rfl
    · unfold accepted
      split <;> simp_all [Operation.transacts]
    · rw [step, chain, sameChain]
    · rw [step, announcer, sameChain, sameAnnouncer]

/-- An operation that leaves the session with a block on the tip, one above it. -/
theorem effect_of_extended {occurrence : Occurrence} {block : Block}
    (listeners : occurrence.operation.listeners = [])
    (state : occurrence.step.state =
      occurrence.before.extended block (occurrence.before.chain.height + 1))
    (registered : occurrence.registered = [])
    (accepted : occurrence.accepted = [⟨occurrence.before.chain.height + 1, block⟩])
    (onTip : block.header.previous = occurrence.before.chain.tip)
    (above : (occurrence.before.chain.height + 1).toNat = occurrence.before.chain.height.toNat + 1) :
    occurrence.Effect := by
  refine .accepts block _ listeners ?_ registered accepted onTip above ?_ ?_
  · rw [state]
    rfl
  · rw [state]
    rfl
  · rw [state]
    rfl

end Occurrence

namespace Session

/-- What accepting a block does. -/
theorem effect_acceptBlock (session : Session) (block : Block) :
    Occurrence.Effect ⟨session, .acceptBlock block⟩ := by
  have step : Occurrence.step ⟨session, .acceptBlock block⟩ =
      ⟨(session.acceptBlock block).state, (session.acceptBlock block).notices,
        (session.acceptBlock block).result.map .accepted⟩ := Step.andThen_done _ _
  rcases session.acceptBlock_cases block with ⟨reason, refused⟩ | ⟨onTip, above, accepted⟩
  · rw [refused] at step
    exact Occurrence.effect_of_failed step rfl rfl rfl rfl
  · rw [accepted] at step
    refine Occurrence.effect_of_extended rfl (by rw [step]) ?_ ?_ onTip above
    · rw [Occurrence.registered, step]
      rfl
    · simp only [Occurrence.accepted, step]
      rfl

/-- What building and accepting a block does. -/
theorem effect_newBlock (session : Session) (now : UInt64) (transactions : List NamedTransaction) :
    Occurrence.Effect ⟨session, .newBlock now transactions⟩ := by
  have step : Occurrence.step ⟨session, .newBlock now transactions⟩ =
      ⟨(session.newBlock now transactions).state, (session.newBlock now transactions).notices,
        (session.newBlock now transactions).result.map .built⟩ := Step.andThen_done _ _
  rcases session.newBlock_cases now transactions with ⟨reason, refused⟩ | ⟨block, _, whole⟩
  · rw [refused] at step
    exact Occurrence.effect_of_failed step rfl rfl rfl rfl
  · rw [whole] at step
    rcases session.acceptBlock_cases block with ⟨reason, refused⟩ | ⟨onTip, above, accepted⟩
    · rw [refused] at step
      exact Occurrence.effect_of_failed step rfl rfl rfl rfl
    · rw [accepted] at step
      refine Occurrence.effect_of_extended rfl (by rw [step]) ?_ ?_ onTip above
      · rw [Occurrence.registered, step]
        rfl
      · simp only [Occurrence.accepted, step]
        rfl

/-- Building a block and not accepting it does nothing. -/
theorem effect_of_built (session : Session) {operation : Operation} {result : Except BlockError Block}
    (listeners : operation.listeners = [])
    (notAccepting : Occurrence.accepted ⟨session, operation⟩ = [])
    (step : session.perform operation = ⟨session, [], (result.mapError .block).map .built⟩) :
    Occurrence.Effect ⟨session, operation⟩ := by
  refine .quiet listeners ?_ ?_ notAccepting ?_ ?_
  · rw [Occurrence.step, step]
  · rw [Occurrence.registered, Occurrence.step, step]
    cases result <;> rfl
  · rw [Occurrence.step, step]
  · rw [Occurrence.step, step]

end Session

/-- Every operation has one of the effects. -/
theorem Occurrence.effect (occurrence : Occurrence) : occurrence.Effect := by
  obtain ⟨session, operation⟩ := occurrence
  cases operation with
  | listen listener => exact .listens listener rfl
  | add named => exact effect_of_add session named (session.perform_add named) rfl rfl rfl rfl
  | ordinary name spends outputs =>
    rcases session.perform_ordinary_cases name spends outputs with ⟨error, step⟩ | step
    · exact effect_of_failed step rfl rfl rfl rfl
    · exact effect_of_add _ _ step rfl rfl rfl rfl
  | generation name owner =>
    exact effect_of_add session.counted ⟨name, session.nextGeneration owner⟩
      (session.perform_generation name owner) rfl rfl rfl rfl
  | buildBlock now transactions => exact session.effect_of_built rfl rfl rfl
  | buildBlockOn now previous transactions => exact session.effect_of_built rfl rfl rfl
  | acceptBlock block => exact session.effect_acceptBlock block
  | newBlock now transactions => exact session.effect_newBlock now transactions

/-! ## The history of a run -/

/-- The blocks accepted in a run, with their heights. -/
def acceptedIn (run : List Occurrence) : List PlacedBlock := run.flatMap Occurrence.accepted

@[simp]
theorem acceptedIn_concat (run : List Occurrence) (last : Occurrence) :
    acceptedIn (run ++ [last]) = acceptedIn run ++ last.accepted := by
  simp [acceptedIn]

/-- An operation adds what it accepted to the history of the chain. -/
theorem Occurrence.Effect.holds {occurrence : Occurrence} (effect : occurrence.Effect)
    {genesisHeight : UInt64} {genesis : Digest} {history : List PlacedBlock}
    (holds : Chain.Holds genesisHeight genesis history occurrence.before.chain) :
    Chain.Holds genesisHeight genesis (history ++ occurrence.accepted)
      occurrence.step.state.chain := by
  cases effect with
  | quiet _ _ _ accepted chain _ =>
    rw [accepted, chain, List.append_nil]
    exact holds
  | listens listener operation =>
    obtain ⟨session, _⟩ := occurrence
    cases operation
    rw [show Occurrence.accepted ⟨session, .listen listener⟩ = [] from rfl, List.append_nil]
    exact holds
  | registers tx _ _ _ accepted chain _ =>
    rw [accepted, chain, List.append_nil]
    exact holds.register tx.id tx
  | accepts block height _ _ _ accepted onTip above chain _ =>
    rw [accepted, chain]
    exact holds.extend onTip above

namespace Session

theorem occurrences_append (session : Session) (first second : List Operation) :
    session.occurrences (first ++ second) =
      session.occurrences first ++ (session.performAll first).occurrences second := by
  induction first generalizing session with
  | nil => rfl
  | cons operation first ih =>
    rw [List.cons_append, occurrences, ih]
    rfl

/-- What a run accepted by some moment is part of what it accepted. -/
theorem acceptedIn_subset {earlier operations : List Operation}
    (moment : earlier <+: operations) (session : Session) :
    acceptedIn (session.occurrences earlier) ⊆ acceptedIn (session.occurrences operations) := by
  obtain ⟨later, rfl⟩ := moment
  rw [occurrences_append, acceptedIn, acceptedIn, List.flatMap_append]
  exact List.subset_append_left _ _

/-- A block off the tip adds nothing to what a run accepts. -/
theorem acceptedIn_of_offTip {session : Session} {block : Block}
    (off : block.header.previous ≠ session.chain.tip) (rest : List Operation) :
    acceptedIn (session.occurrences (.acceptBlock block :: rest)) =
      acceptedIn (session.occurrences rest) := by
  simp only [occurrences, acceptedIn, List.flatMap_cons, Occurrence.accepted, Occurrence.step,
    perform, Step.andThen_done, acceptBlock_of_offTip off]
  rfl

/-- A block on the tip is the next that a run accepts. -/
theorem acceptedIn_of_onTip {session : Session} {block : Block}
    (onTip : block.header.previous = session.chain.tip)
    (room : session.chain.height.toNat + 1 ≠ UInt64.size) (rest : List Operation) :
    acceptedIn (session.occurrences (.acceptBlock block :: rest)) =
      ⟨session.chain.height + 1, block⟩ ::
        acceptedIn ((session.extended block (session.chain.height + 1)).occurrences rest) := by
  simp only [occurrences, acceptedIn, List.flatMap_cons, Occurrence.accepted, Occurrence.step,
    perform, Step.andThen_done, acceptBlock_of_onTip onTip room]
  rfl

/-- The chain of a session tells the history of the accepted blocks. -/
theorem chain_holds (config : SessionConfig) (operations : List Operation) :
    Chain.Holds config.genesisHeight config.genesis
      (acceptedIn ((start config).occurrences operations))
      ((start config).performAll operations).chain := by
  induction operations using List.reverseRecOn with
  | nil => exact Chain.Holds.start config.genesisHeight config.genesis
  | append_singleton operations last ih =>
    rw [occurrences_concat, acceptedIn_concat, performAll_concat]
    exact (Occurrence.effect ⟨(start config).performAll operations, last⟩).holds ih

end Session

/-! ## Parameters -/

theorem Occurrence.Effect.config_eq {occurrence : Occurrence} (effect : occurrence.Effect) :
    occurrence.step.state.config = occurrence.before.config := by
  cases effect with
  | quiet _ config | registers _ _ config | accepts _ _ _ config => exact config
  | listens listener operation =>
    obtain ⟨session, _⟩ := occurrence
    cases operation
    rfl

namespace Session

theorem performAll_config (session : Session) (operations : List Operation) :
    (session.performAll operations).config = session.config := by
  induction operations using List.reverseRecOn with
  | nil => rfl
  | append_singleton operations last ih =>
    rw [performAll_concat]
    exact (Occurrence.effect ⟨session.performAll operations, last⟩).config_eq.trans ih

/-- A session builds blocks of its own version only. -/
theorem version_of_buildBlockOn {session : Session} {now : UInt64} {previous : Digest}
    {transactions : List NamedTransaction} {block : Block}
    (built : session.buildBlockOn now previous transactions = .ok block) :
    block.header.version = session.config.blockVersion := by
  unfold buildBlockOn Block.build at built
  split at built
  · cases built
  · cases built
    rfl

end Session
end PocketLedger
