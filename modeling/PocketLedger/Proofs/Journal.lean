import PocketLedger.Proofs.SessionChain
import Mathlib.Data.List.Induction

/-!
# What a journal tells of a run

A recorder hears of every registered transaction once by itself and of every transaction of an
accepted block with its block, and of nothing else. The announcements of a block are made from
what the chain finds at the new height, so that none is missing rests on the history that the
chain tells. A journal that several recorders share holds each event once for each of them.
-/

namespace PocketLedger

/-! ## Deliveries -/

/-- The deliveries of events to listeners, event by event. -/
def deliveriesOf (listeners : List Listener) (events : List Event) : List Delivery :=
  events.flatMap fun event => listeners.map fun listener => ⟨listener, event⟩

/-- What a journal keeps of deliveries, in order. -/
def recordsFor (number : Nat) (deliveries : List Delivery) : List RecordedEvent :=
  (deliveries.filter fun delivery => delivery.listener = .recorder number).map
    fun delivery => delivery.event.record

theorem recordsFor_append (number : Nat) (left right : List Delivery) :
    recordsFor number (left ++ right) = recordsFor number left ++ recordsFor number right := by
  simp [recordsFor]

/-- A journal keeps one event once for each of its recorders. -/
theorem recordsFor_single (number : Nat) (listeners : List Listener) (event : Event) :
    recordsFor number (listeners.map fun listener => ⟨listener, event⟩) =
      List.replicate (listeners.count (.recorder number)) event.record := by
  induction listeners with
  | nil => rfl
  | cons listener listeners ih =>
    rw [List.map_cons, ← List.singleton_append, recordsFor_append, ih, List.count_cons]
    by_cases same : listener = .recorder number
    · simp [recordsFor, same, List.replicate_succ]
    · simp [recordsFor, same]

theorem recordsFor_deliveriesOf (number : Nat) (listeners : List Listener) (events : List Event) :
    recordsFor number (deliveriesOf listeners events) =
      (events.map Event.record).flatMap
        (List.replicate (listeners.count (.recorder number))) := by
  induction events with
  | nil => rfl
  | cons event events ih =>
    rw [deliveriesOf, List.flatMap_cons, recordsFor_append, recordsFor_single, List.map_cons,
      List.flatMap_cons, ← ih]
    rfl

/-- Announcing events delivers them and keeps the listeners. -/
theorem Announcer.announceAll_eq (announcer : Announcer) (events : List Event) :
    announcer.announceAll events = ⟨announcer.listeners,
      announcer.deliveries ++ deliveriesOf announcer.listeners events⟩ := by
  unfold announceAll
  induction events generalizing announcer with
  | nil => simp [deliveriesOf]
  | cons event events ih =>
    rw [List.foldl_cons, ih]
    simp [announce, deliveriesOf]

/-! ## What an operation gives to hear -/

namespace Occurrence

/-- What is announced of an operation, with the chain as it is afterwards. -/
def events (occurrence : Occurrence) : List Event :=
  (occurrence.registered.map fun tx =>
    ⟨occurrence.step.state.chain, tx.id, tx, none, none⟩) ++
  occurrence.accepted.flatMap fun placed =>
    placed.block.transactions.mapIdx fun position tx =>
      ⟨occurrence.step.state.chain, tx.id, tx, some placed, some position⟩

/-- What a recorder hears of an operation: a registered transaction at the height of the tip,
and the transactions of an accepted block at their positions and at the height of the block. -/
def heard (occurrence : Occurrence) : List RecordedEvent :=
  (occurrence.registered.map fun tx =>
    ⟨tx.id, tx, none, none, none, occurrence.before.chain.height⟩) ++
  occurrence.accepted.flatMap fun placed =>
    placed.block.transactions.mapIdx fun position tx =>
      ⟨tx.id, tx, some placed.height, some placed.block.id, some position, placed.height⟩

/-- Nothing is heard of an operation that fails. -/
theorem heard_of_failed (occurrence : Occurrence) {error : SessionError}
    (failed : occurrence.step.result = .error error) : occurrence.heard = [] := by
  rw [heard, registered_of_failed failed, accepted_of_failed failed]
  rfl

end Occurrence

/-- The chain that comes with an event knows a transaction of its id, and finds its block by id
and by height. -/
structure Event.Resolved (event : Event) : Prop where
  transaction : ∃ tx, event.view.transaction? event.txId = some tx ∧ tx.id = event.txId
  block : ∀ placed, event.block = some placed →
    event.view.blockById? placed.block.id = some placed ∧
      event.view.blockAt? placed.height = some placed

/-- What comes in a block is known afterwards, if perhaps by another transaction of the id. -/
theorem Chain.exists_transaction?_extend {chain : Chain} {block : Block} {height : UInt64}
    {tx : Transaction} (mem : tx ∈ block.transactions) :
    ∃ known, (chain.extend block height).transaction? tx.id = some known ∧ known.id = tx.id := by
  rw [transaction?_extend]
  cases found : block.transactions.reverse.find? fun other => other.id = tx.id with
  | none =>
    have none := List.find?_eq_none.mp found tx (List.mem_reverse.mpr mem)
    simp at none
  | some known => exact ⟨known, rfl, by simpa using List.find?_some found⟩

namespace Chain.Holds

variable {genesisHeight : UInt64} {genesis : Digest} {history : List PlacedBlock} {chain : Chain}

/-- The last block is found by its height and by its id. -/
theorem lookups_last {placed : PlacedBlock}
    (holds : Holds genesisHeight genesis (history ++ [placed]) chain) :
    chain.blockById? placed.block.id = some placed ∧
      chain.blockAt? placed.height = some placed := by
  have latest : Latest (history ++ [placed]) placed.block.id history.length :=
    (latest_concat_iff history placed _ _).mpr (by rw [if_pos rfl])
  exact ⟨(holds.blockById?_eq_some_iff _ _).mpr
      ⟨history.length, latest, List.getElem?_concat_length⟩,
    (holds.blockAt?_eq_some_iff _ _).mpr ⟨List.mem_concat_self, rfl⟩⟩

/-- Everything in a block that was just put on the tip is announced. -/
theorem blockEvents_last {placed : PlacedBlock}
    (holds : Holds genesisHeight genesis (history ++ [placed]) chain) :
    Session.blockEvents chain placed.height = placed.block.transactions.mapIdx fun position tx =>
      ⟨chain, tx.id, tx, some placed, some position⟩ := by
  rw [Session.blockEvents, holds.lookups_last.2, List.mapIdx_eq_zipIdx_map]

end Chain.Holds

namespace Occurrence.Effect

variable {occurrence : Occurrence} {genesisHeight : UInt64} {genesis : Digest}
  {history : List PlacedBlock}

/-- An operation adds its listener, and delivers what is to be heard of it to those that were
there before. -/
theorem announcer_eq (effect : occurrence.Effect)
    (holds : Chain.Holds genesisHeight genesis history occurrence.before.chain) :
    occurrence.step.state.announcer =
      ⟨occurrence.before.announcer.listeners ++ occurrence.operation.listeners,
        occurrence.before.announcer.deliveries ++
          deliveriesOf occurrence.before.announcer.listeners occurrence.events⟩ := by
  have after := effect.holds holds
  cases effect with
  | quiet listeners _ registered accepted _ announcer =>
    rw [announcer, listeners, events, registered, accepted]
    simp [deliveriesOf]
  | listens listener operation =>
    obtain ⟨session, _⟩ := occurrence
    cases operation
    simp [Occurrence.step, Session.perform, Step.done, Session.listen, Announcer.listen, events,
      registered, accepted, deliveriesOf, Operation.listeners]
  | registers tx listeners _ registered accepted chain announcer =>
    rw [announcer, listeners, events, registered, accepted, chain]
    simp [Announcer.announce, deliveriesOf]
  | accepts block height listeners _ registered accepted _ _ chain announcer =>
    rw [accepted, chain] at after
    rw [announcer, listeners, events, registered, accepted, chain, Announcer.announceAll_eq,
      after.blockEvents_last]
    simp

/-- What is announced is recorded as what is to be heard. -/
theorem map_record_events (effect : occurrence.Effect) :
    occurrence.events.map Event.record = occurrence.heard := by
  cases effect with
  | quiet _ _ registered accepted => simp [events, heard, registered, accepted]
  | listens listener operation =>
    obtain ⟨session, _⟩ := occurrence
    cases operation
    rfl
  | registers tx _ _ registered accepted chain =>
    simp [events, heard, registered, accepted, chain, Event.record, Chain.register]
  | accepts block height _ _ registered accepted _ _ chain =>
    rw [events, heard, registered, accepted, chain]
    simp only [List.map_nil, List.nil_append, List.flatMap_singleton, List.mapIdx_eq_zipIdx_map,
      List.map_map]
    rfl

/-- An operation that fails changes nothing that listeners have or hear. -/
theorem announcer_of_failed (effect : occurrence.Effect) {error : SessionError}
    (failed : occurrence.step.result = .error error) :
    occurrence.step.state.announcer = occurrence.before.announcer :=
  (effect.unchanged_of_failed failed).2

/-- What is announced can be looked up in the chain that comes with it. -/
theorem resolved (effect : occurrence.Effect)
    (holds : Chain.Holds genesisHeight genesis history occurrence.before.chain) :
    ∀ event ∈ occurrence.events, event.Resolved := by
  have after := effect.holds holds
  cases effect with
  | quiet _ _ registered accepted => simp [events, registered, accepted]
  | listens listener operation =>
    obtain ⟨session, _⟩ := occurrence
    cases operation
    simp [events, registered, accepted, Occurrence.step, Session.perform, Step.done]
  | registers tx _ _ registered accepted chain =>
    rw [events, registered, accepted, chain]
    intro event mem
    obtain rfl := List.mem_singleton.mp mem
    refine ⟨⟨tx, by rw [Chain.transaction?_register, if_pos rfl], rfl⟩, ?_⟩
    intro placed same
    cases same
  | accepts block height _ _ registered accepted _ _ chain =>
    rw [accepted, chain] at after
    rw [events, registered, accepted, chain]
    intro event mem
    rw [List.map_nil, List.nil_append, List.flatMap_singleton, List.mem_mapIdx] at mem
    obtain ⟨position, bound, rfl⟩ := mem
    refine ⟨Chain.exists_transaction?_extend (List.getElem_mem bound), ?_⟩
    intro placed same
    obtain rfl := Option.some.inj same
    exact after.lookups_last

end Occurrence.Effect

/-! ## Runs -/

/-- The listeners that operations add, in order. -/
def listenersIn (operations : List Operation) : List Listener :=
  operations.flatMap Operation.listeners

/-- The deliveries of a run of operations: what is to be heard of each goes to the listeners that
the operations before it added. -/
def deliveriesIn (operations : List Operation) (run : List Occurrence) : List Delivery :=
  (run.mapIdx fun position occurrence =>
    deliveriesOf (listenersIn (operations.take position)) occurrence.events).flatten

theorem deliveriesIn_concat {operations : List Operation} {run : List Occurrence}
    (lengths : run.length = operations.length) (operation : Operation) (last : Occurrence) :
    deliveriesIn (operations ++ [operation]) (run ++ [last]) =
      deliveriesIn operations run ++ deliveriesOf (listenersIn operations) last.events := by
  have before : (run.mapIdx fun position occurrence =>
        deliveriesOf (listenersIn ((operations ++ [operation]).take position)) occurrence.events) =
      run.mapIdx fun position occurrence =>
        deliveriesOf (listenersIn (operations.take position)) occurrence.events := by
    rw [List.mapIdx_eq_mapIdx_iff]
    intro position bound
    rw [List.take_append_of_le_length (by omega)]
  rw [deliveriesIn, List.mapIdx_concat, before, lengths, List.take_left, List.flatten_append,
    List.flatten_singleton]
  rfl

/-- A journal of deliveries in a run is what was heard of each operation, as often as recorders
had been added. -/
theorem recordsFor_deliveriesIn (number : Nat) (operations : List Operation)
    (run : List Occurrence) :
    recordsFor number (deliveriesIn operations run) =
      (run.mapIdx fun position occurrence => occurrence.heard.flatMap (List.replicate
        ((listenersIn (operations.take position)).count (.recorder number)))).flatten := by
  have rounds : ∀ rounds : List (List Delivery), recordsFor number rounds.flatten =
      (rounds.map (recordsFor number)).flatten := by
    intro rounds
    induction rounds with
    | nil => rfl
    | cons round rounds ih => rw [List.flatten_cons, recordsFor_append, ih]; rfl
  rw [deliveriesIn, rounds, List.mapIdx_eq_zipIdx_map, List.mapIdx_eq_zipIdx_map, List.map_map]
  congr 1
  apply List.map_congr_left
  rintro ⟨occurrence, position⟩ _
  rw [Function.comp_apply, recordsFor_deliveriesOf, occurrence.effect.map_record_events]

namespace Session

theorem length_occurrences (session : Session) (operations : List Operation) :
    (session.occurrences operations).length = operations.length := by
  induction operations generalizing session with
  | nil => rfl
  | cons first rest ih => rw [occurrences, List.length_cons, ih, List.length_cons]

/-- The listeners of a session are those that were added, and the deliveries are those of the
run. -/
theorem announcer_performAll (config : SessionConfig) (operations : List Operation) :
    ((start config).performAll operations).announcer = ⟨listenersIn operations,
      deliveriesIn operations ((start config).occurrences operations)⟩ := by
  induction operations using List.reverseRecOn with
  | nil => rfl
  | append_singleton operations last ih =>
    have step := (Occurrence.effect ⟨(start config).performAll operations, last⟩).announcer_eq
      (chain_holds config operations)
    rw [ih] at step
    rw [performAll_concat, occurrences_concat, deliveriesIn_concat (length_occurrences _ _),
      listenersIn, List.flatMap_append, List.flatMap_singleton]
    exact step

/-- Whatever was delivered could be looked up in the chain that came with it. -/
theorem resolved_of_delivered (config : SessionConfig) (operations : List Operation) :
    ∀ delivery ∈ ((start config).performAll operations).announcer.deliveries,
      delivery.event.Resolved := by
  induction operations using List.reverseRecOn with
  | nil => nofun
  | append_singleton operations last ih =>
    have effect := Occurrence.effect ⟨(start config).performAll operations, last⟩
    have holds := chain_holds config operations
    rw [performAll_concat]
    intro delivery mem
    have step := congrArg Announcer.deliveries (effect.announcer_eq holds)
    rw [show ((start config).performAll operations).perform last =
      Occurrence.step ⟨(start config).performAll operations, last⟩ from rfl, step,
      List.mem_append] at mem
    rcases mem with earlier | latest
    · exact ih delivery earlier
    · rw [deliveriesOf, List.mem_flatMap] at latest
      obtain ⟨event, announced, delivered⟩ := latest
      obtain ⟨listener, _, rfl⟩ := List.mem_map.mp delivered
      exact effect.resolved holds event announced

/-- After any run, a journal holds what was heard of each operation, in order, each event once
for every recorder of the journal that had been added by then. Nothing is heard of an operation
that fails. Whatever is delivered can be looked up in the chain that comes with it. -/
theorem journal_tells_run (config : SessionConfig) (operations : List Operation) (number : Nat) :
    let run := (start config).occurrences operations
    let session := (start config).performAll operations
    session.announcer.journal number =
        (run.mapIdx fun position occurrence => occurrence.heard.flatMap (List.replicate
          ((listenersIn (operations.take position)).count (.recorder number)))).flatten ∧
      (∀ occurrence ∈ run, ∀ error, occurrence.step.result = .error error →
        occurrence.step.state.announcer = occurrence.before.announcer ∧ occurrence.heard = []) ∧
      ∀ delivery ∈ session.announcer.deliveries, delivery.event.Resolved := by
  intro run session
  refine ⟨?_, ?_, resolved_of_delivered config operations⟩
  · rw [← recordsFor_deliveriesIn]
    have deliveries := congrArg Announcer.deliveries (announcer_performAll config operations)
    exact congrArg (recordsFor number) deliveries
  · intro occurrence _ error failed
    exact ⟨occurrence.effect.announcer_of_failed failed, occurrence.heard_of_failed failed⟩

/-- A transaction is heard of by one recorder, a failure by none, and two transactions of a block
by two recorders. -/
theorem journal_tells_run_to_two_recorders :
    let owner := Owner.address "o"
    let made := (start .default).nextGeneration owner
    let other : Transaction := ⟨Transaction.currentVersion, [], [⟨7, owner⟩], 0⟩
    let block : Block := ⟨⟨Block.defaultVersion, Digest.zero, Digest.zero, 7, 0, 0⟩, [made, other]⟩
    let operations : List Operation := [.listen (.recorder 0), .generation "a" owner,
      .newBlock 7 [], .listen (.recorder 0), .acceptBlock block]
    let first : RecordedEvent := ⟨made.id, made, some 1, some block.id, some 0, 1⟩
    let second : RecordedEvent := ⟨other.id, other, some 1, some block.id, some 1, 1⟩
    ((start .default).performAll operations).announcer.journal 0 =
        [⟨made.id, made, none, none, none, 0⟩, first, first, second, second] ∧
      (∃ occurrence ∈ (start .default).occurrences operations,
        occurrence.step.result = .error (.block .empty) ∧ occurrence.heard = []) ∧
      ∀ delivery ∈ ((start .default).performAll operations).announcer.deliveries,
        delivery.event.Resolved := by
  intro owner made other block operations first second
  obtain ⟨journal, failures, resolved⟩ := journal_tells_run .default operations 0
  have third : ⟨(start .default).performAll (operations.take 2), .newBlock 7 []⟩ ∈
      (start .default).occurrences operations := List.mem_of_getElem? (i := 2) rfl
  have failed : Occurrence.step ⟨(start .default).performAll (operations.take 2), .newBlock 7 []⟩ =
      .failed _ (.block .empty) := rfl
  refine ⟨?_, ⟨_, third, by rw [failed]; rfl, (failures _ third _ (by rw [failed]; rfl)).2⟩, resolved⟩
  -- What is heard depends on no digest, so both sides are the same without taking any.
  rw [journal]
  rfl

end Session
end PocketLedger
