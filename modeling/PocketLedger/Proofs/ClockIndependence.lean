import PocketLedger.Proofs.SessionRun
import Mathlib.Data.List.Forall2

/-!
# What the clock decides

The clock is read when a block is built, and it decides the timestamp. The timestamp decides the
id, and the id is named by the next block, so from their first block on two runs at different
times have no block in common. Nothing else comes of it. The relation between the two sessions
leaves out the tip, the timestamps and the ids of blocks, and every operation keeps it: the one
test that looks at ids, whether a block is on the tip, is made in each run on its own ids.
-/

namespace PocketLedger

/-! ## Apart from the clock -/

/-- The same request at another time. A request to accept a given block is none of these, since
the block has been stamped before. -/
inductive Operation.Restamped : Operation → Operation → Prop
  | listen (listener : Listener) : Restamped (.listen listener) (.listen listener)
  | add (named : NamedTransaction) : Restamped (.add named) (.add named)
  | ordinary (name : String) (spends : List Spend) (outputs : List Output) :
      Restamped (.ordinary name spends outputs) (.ordinary name spends outputs)
  | generation (name : String) (owner : Owner) :
      Restamped (.generation name owner) (.generation name owner)
  | buildBlock (now later : UInt64) (transactions : List NamedTransaction) :
      Restamped (.buildBlock now transactions) (.buildBlock later transactions)
  | buildBlockOn (now later : UInt64) (previous : Digest) (transactions : List NamedTransaction) :
      Restamped (.buildBlockOn now previous transactions)
        (.buildBlockOn later previous transactions)
  | newBlock (now later : UInt64) (transactions : List NamedTransaction) :
      Restamped (.newBlock now transactions) (.newBlock later transactions)

/-- Blocks that agree in all but the timestamp and the id of the block before. -/
structure Block.Restamped (left right : Block) : Prop where
  version : left.header.version = right.header.version
  merkleRoot : left.header.merkleRoot = right.header.merkleRoot
  target : left.header.target = right.header.target
  nonce : left.header.nonce = right.header.nonce
  transactions : left.transactions = right.transactions

/-- Such blocks at one height. -/
structure PlacedBlock.Restamped (left right : PlacedBlock) : Prop where
  height : left.height = right.height
  block : left.block.Restamped right.block

/-- Events that agree in all but the id of the block, which both have or neither has. -/
structure RecordedEvent.Restamped (left right : RecordedEvent) : Prop where
  txId : left.txId = right.txId
  transaction : left.transaction = right.transaction
  blockHeight : left.blockHeight = right.blockHeight
  inBlock : left.inBlock = right.inBlock
  position : left.position = right.position
  bestHeight : left.bestHeight = right.bestHeight

/-- Notices that agree in all but the id of a block. -/
inductive Notice.Restamped : Notice → Notice → Prop
  | same (notice : Notice) : Restamped notice notice
  | blockAccepted (id otherId : Digest) (height : UInt64) :
      Restamped (.blockAccepted id height) (.blockAccepted otherId height)

/-- Outcomes that agree but for the block that was built. -/
inductive Outcome.Restamped : Outcome → Outcome → Prop
  | nothing : Restamped .nothing .nothing
  | registered (named : NamedTransaction) : Restamped (.registered named) (.registered named)
  | built {left right : Block} (blocks : left.Restamped right) :
      Restamped (.built left) (.built right)

/-! ## Two steps beside each other -/

namespace Step

variable {σ τ ε δ α β : Type}

/-- Results that are the same error, or values that correspond. -/
inductive SameResult (values : α → α → Prop) : Except ε α → Except ε α → Prop
  | error (error : ε) : SameResult values (.error error) (.error error)
  | ok {left right : α} (related : values left right) : SameResult values (.ok left) (.ok right)

/-- Steps that lead to corresponding states and report and answer the same, apart from the
clock. -/
structure Beside (states : σ → σ → Prop) (values : α → α → Prop) (left right : Step σ ε α) :
    Prop where
  state : states left.state right.state
  notices : List.Forall₂ Notice.Restamped left.notices right.notices
  result : SameResult values left.result right.result

/-- The same errors are wrapped to the same errors. -/
theorem SameResult.mapError {values : α → α → Prop} {left right : Except ε α}
    (same : SameResult values left right) (wrap : ε → δ) :
    SameResult values (left.mapError wrap) (right.mapError wrap) := by
  cases same with
  | error error => exact .error (wrap error)
  | ok related => exact .ok related

/-- Related values are changed to values that are related. -/
theorem SameResult.map {values : α → α → Prop} {others : β → β → Prop} {left right : Except ε α}
    (same : SameResult values left right) {change : α → β}
    (changed : ∀ {left right}, values left right → others (change left) (change right)) :
    SameResult others (left.map change) (right.map change) := by
  cases same with
  | error error => exact .error error
  | ok related => exact .ok (changed related)

/-- Results with equal values are equal. -/
theorem SameResult.eq {left right : Except ε α} (same : SameResult Eq left right) :
    left = right := by
  cases same with
  | error error => rfl
  | ok related => rw [related]

namespace Beside

variable {states : σ → σ → Prop} {values : α → α → Prop} {left right : Step σ ε α}

/-- Every step is beside itself. -/
theorem refl (step : Step σ ε α) : Beside Eq Eq step step where
  state := rfl
  notices := List.forall₂_same.mpr fun notice _ => .same notice
  result := by
    cases step.result with
    | error error => exact .error error
    | ok value => exact .ok rfl

/-- Steps that end with related states and values are beside each other. -/
theorem done {before after : σ} (state : states before after) {value other : α}
    (related : values value other) :
    Beside states values (.done before value : Step σ ε α) (.done after other) :=
  ⟨state, .nil, .ok related⟩

/-- Steps that fail for one reason are beside each other. -/
theorem failed {before after : σ} (state : states before after) (error : ε) :
    Beside states values (.failed before error) (.failed after error) :=
  ⟨state, .nil, .error error⟩

/-- Steps on corresponding parts are steps on corresponding wholes. -/
theorem within (parts : Beside states values left right) {wholes : τ → τ → Prop}
    {place otherPlace : σ → τ}
    (placed : ∀ {before after}, states before after → wholes (place before) (otherPlace after))
    (wrap : ε → δ) :
    Beside wholes values (left.within place wrap) (right.within otherPlace wrap) :=
  ⟨placed parts.state, parts.notices, parts.result.mapError wrap⟩

/-- What goes on in the same way after corresponding steps stays beside. -/
theorem andThen (first : Beside states values left right) {others : β → β → Prop}
    {next otherNext : σ → α → Step σ ε β}
    (second : ∀ {before after value other}, states before after → values value other →
      Beside states others (next before value) (otherNext after other)) :
    Beside states others (left.andThen next) (right.andThen otherNext) := by
  obtain ⟨leftState, leftNotices, leftResult⟩ := left
  obtain ⟨rightState, rightNotices, rightResult⟩ := right
  obtain ⟨state, notices, result⟩ := first
  cases result with
  | error error => exact ⟨state, notices, .error error⟩
  | ok related =>
    have rest := second state related
    exact ⟨rest.state, List.rel_append notices rest.notices, rest.result⟩

/-- Values that are made of corresponding values at the end correspond. -/
theorem andThen_done (first : Beside states values left right) {others : β → β → Prop}
    {finish : α → β}
    (finished : ∀ {value other}, values value other → others (finish value) (finish other)) :
    Beside states others (left.andThen fun state value => .done state (finish value))
      (right.andThen fun state value => .done state (finish value)) :=
  first.andThen fun state related => .done state (finished related)

end Beside
end Step

/-! ## Chains -/

/-- Chains that agree in all but ids and timestamps of blocks. -/
structure Chain.Restamped (left right : Chain) : Prop where
  genesisHeight : left.genesisHeight = right.genesisHeight
  height : left.height = right.height
  transactions : left.transactions = right.transactions
  blocks : List.Forall₂ PlacedBlock.Restamped left.blocks.toList right.blocks.toList

/-- Related lists have related entries at every position. -/
theorem rel_getElem? {α : Type} {relation : α → α → Prop} {left right : List α}
    (related : List.Forall₂ relation left right) (position : Nat) :
    Option.Rel relation left[position]? right[position]? := by
  induction related generalizing position with
  | nil => exact .none
  | cons first _ ih =>
    cases position with
    | zero => exact .some first
    | succ position => exact ih position

namespace Chain

/-- Which transactions a chain comes to know depends on those that it knew. -/
theorem registerAll_transactions (chain : Chain) (transactions : List Transaction) :
    (chain.registerAll transactions).transactions =
      transactions.foldl (fun known tx => known.insert tx.id tx) chain.transactions := by
  unfold registerAll
  induction transactions generalizing chain with
  | nil => rfl
  | cons first rest ih => exact ih (chain.register first.id first)

theorem extend_transactions (chain : Chain) (block : Block) (height : UInt64) :
    (chain.extend block height).transactions =
      (chain.registerAll block.transactions).transactions := rfl

namespace Restamped

variable {left right : Chain}

/-- The chains have corresponding blocks at each height. -/
theorem blockAt? (chains : left.Restamped right) (height : UInt64) :
    Option.Rel PlacedBlock.Restamped (left.blockAt? height) (right.blockAt? height) := by
  unfold Chain.blockAt?
  rw [chains.genesisHeight]
  by_cases above : right.genesisHeight < height
  · rw [if_pos above, if_pos above, ← Array.getElem?_toList, ← Array.getElem?_toList]
    exact rel_getElem? chains.blocks _
  · rw [if_neg above, if_neg above]
    exact .none

/-- A transaction is registered in both chains. -/
theorem register (chains : left.Restamped right) (id : Digest) (tx : Transaction) :
    (left.register id tx).Restamped (right.register id tx) where
  genesisHeight := chains.genesisHeight
  height := chains.height
  transactions := congrArg (·.insert id tx) chains.transactions
  blocks := chains.blocks

/-- Corresponding blocks extend both chains alike. -/
theorem extend (chains : left.Restamped right) {block other : Block}
    (blocks : block.Restamped other) (height : UInt64) :
    (left.extend block height).Restamped (right.extend other height) where
  genesisHeight := by simpa using chains.genesisHeight
  height := rfl
  transactions := by
    simp only [extend_transactions, registerAll_transactions, chains.transactions,
      blocks.transactions]
  blocks := by
    simp only [extend_blocks, Array.toList_push]
    exact List.rel_append chains.blocks (.cons ⟨rfl, blocks⟩ .nil)

/-- Corresponding blocks, each on the tip of its own chain, are both accepted at one height, or
both refused because there is no height above. -/
theorem accept (chains : left.Restamped right) {block other : Block}
    (blocks : block.Restamped other) (onTip : block.header.previous = left.tip)
    (otherOnTip : other.header.previous = right.tip) :
    Step.Beside Chain.Restamped Eq (left.accept block) (right.accept other) := by
  unfold Chain.accept
  rw [if_neg (not_not_intro onTip), if_neg (not_not_intro otherOnTip), chains.height]
  by_cases full : right.height.toNat + 1 = UInt64.size
  · rw [if_pos full, if_pos full]
    exact .failed chains _
  · rw [if_neg full, if_neg full]
    exact ⟨chains.extend blocks _, .cons (.blockAccepted _ _ _) .nil, .ok rfl⟩

end Restamped
end Chain

/-! ## Announcements -/

/-- Announcers that have told the same listeners of corresponding events. -/
structure Announcer.Restamped (left right : Announcer) : Prop where
  listeners : left.listeners = right.listeners
  deliveries : List.Forall₂ (fun delivery other => delivery.listener = other.listener ∧
    delivery.event.record.Restamped other.event.record) left.deliveries right.deliveries

namespace Announcer.Restamped

variable {left right : Announcer}

/-- A listener is added on both sides. -/
theorem listen (announcers : left.Restamped right) (listener : Listener) :
    (left.listen listener).Restamped (right.listen listener) where
  listeners := congrArg (· ++ [listener]) announcers.listeners
  deliveries := announcers.deliveries

/-- What is announced on both sides is recorded by the same listeners. -/
theorem announce (announcers : left.Restamped right) {event other : Event}
    (records : event.record.Restamped other.record) :
    (left.announce event).Restamped (right.announce other) where
  listeners := announcers.listeners
  deliveries := by
    unfold Announcer.announce
    rw [announcers.listeners]
    refine List.rel_append announcers.deliveries ?_
    rw [List.forall₂_map_left_iff, List.forall₂_map_right_iff]
    exact List.forall₂_same.mpr fun listener _ => ⟨rfl, records⟩

/-- Announcements in order, each with its counterpart. -/
theorem announceAll (announcers : left.Restamped right) {events others : List Event}
    (records : List.Forall₂ (fun event other => event.record.Restamped other.record)
      events others) :
    (left.announceAll events).Restamped (right.announceAll others) := by
  induction records generalizing left right with
  | nil => exact announcers
  | cons first _ ih => exact ih (announcers.announce first)

/-- Each journal has corresponding events. -/
theorem journal (announcers : left.Restamped right) (number : Nat) :
    List.Forall₂ RecordedEvent.Restamped (left.journal number) (right.journal number) := by
  unfold Announcer.journal
  have heard := List.rel_filter
    (p := fun delivery => delivery.listener = .recorder number)
    (q := fun delivery => delivery.listener = .recorder number)
    (fun _ _ delivered => by simp only [delivered.1]) announcers.deliveries
  rw [List.forall₂_map_left_iff, List.forall₂_map_right_iff]
  exact heard.imp fun _ _ delivered => delivered.2

end Announcer.Restamped

/-- The announcements of corresponding blocks correspond. -/
theorem Chain.Restamped.blockEvents {left right : Chain} (chains : left.Restamped right)
    (height : UInt64) :
    List.Forall₂ (fun event other => event.record.Restamped other.record)
      (Session.blockEvents left height) (Session.blockEvents right height) := by
  have found := chains.blockAt? height
  unfold Session.blockEvents
  generalize left.blockAt? height = placed, right.blockAt? height = other at found
  cases found with
  | none => exact .nil
  | some placed =>
    simp only [placed.block.transactions, List.forall₂_map_left_iff, List.forall₂_map_right_iff]
    refine List.forall₂_same.mpr ?_
    rintro ⟨tx, position⟩ _
    exact
      { txId := rfl
        transaction := rfl
        blockHeight := congrArg some placed.height
        -- Not by computation, which would try to take the two ids.
        inBlock := by
          simp only [RecordedEvent.inBlock, Event.record, Option.map_some, Option.isSome_some]
        position := rfl
        bestHeight := chains.height }

/-! ## Sessions -/

/-- Sessions that agree in all but ids and timestamps of blocks. -/
structure Session.Restamped (left right : Session) : Prop where
  config : left.config = right.config
  unspent : left.unspent = right.unspent
  chain : left.chain.Restamped right.chain
  announcer : left.announcer.Restamped right.announcer
  generations : left.generations = right.generations

namespace Session.Restamped

/-- A session starts the same, whatever the clock will tell. -/
theorem start (config : SessionConfig) :
    (Session.start config).Restamped (Session.start config) :=
  ⟨rfl, rfl, ⟨rfl, rfl, rfl, .nil⟩, ⟨rfl, .nil⟩, rfl⟩

variable {left right : Session}

/-- A transaction is made known on both sides. -/
theorem publish (sessions : left.Restamped right) (tx : Transaction) :
    (left.publish tx).Restamped (right.publish tx) where
  config := sessions.config
  unspent := sessions.unspent
  chain := sessions.chain.register tx.id tx
  announcer := sessions.announcer.announce ⟨rfl, rfl, rfl, rfl, rfl, sessions.chain.height⟩
  generations := sessions.generations

/-- The same outputs are put in the place of those of both sessions. -/
theorem replaceUnspent (sessions : left.Restamped right) {unspent other : Unspent}
    (same : unspent = other) :
    Restamped { left with unspent := unspent } { right with unspent := other } :=
  ⟨sessions.config, same, sessions.chain, sessions.announcer, sessions.generations⟩

/-- Registering a transaction goes the same way on both sides. -/
theorem add (sessions : left.Restamped right) (named : NamedTransaction) :
    Step.Beside Restamped Eq (left.add named) (right.add named) := by
  unfold Session.add
  rw [sessions.unspent]
  refine ((Step.Beside.refl _).within sessions.replaceUnspent _).andThen ?_
  intro before after _ _ placed _
  exact ⟨placed.publish named.transaction, .cons (.same _) .nil, .ok rfl⟩

/-- Building and registering a draft goes the same way on both sides. -/
theorem complete (sessions : left.Restamped right) (name : String) (draft : Draft) :
    Step.Beside Restamped Eq (left.complete name draft) (right.complete name draft) := by
  unfold Session.complete
  cases draft.build with
  | error error => exact .failed sessions _
  | ok tx => exact (sessions.add ⟨name, tx⟩).andThen_done fun _ => rfl

/-- Spending for an ordinary transaction is the same in both sessions, as far as it gets. -/
theorem draftOrdinary (sessions : left.Restamped right) (name : String) (spends : List Spend)
    (outputs : List Output) :
    Step.Beside Restamped Eq (left.draftOrdinary name spends outputs)
      (right.draftOrdinary name spends outputs) := by
  unfold Session.draftOrdinary
  by_cases nothing : spends = []
  · rw [if_pos nothing, if_pos nothing]
    exact .failed sessions _
  · rw [if_neg nothing, if_neg nothing, sessions.unspent]
    refine ((Step.Beside.refl _).within sessions.replaceUnspent _).andThen_done ?_
    rintro draft _ rfl
    rfl

/-- The next generation transaction has one number in both sessions. -/
theorem draftGeneration (sessions : left.Restamped right) (owner : Owner) :
    Step.Beside Restamped Eq (left.draftGeneration owner) (right.draftGeneration owner) := by
  unfold Session.draftGeneration
  rw [sessions.generations, sessions.config]
  exact .done ⟨rfl, sessions.unspent, sessions.chain, sessions.announcer, rfl⟩ rfl

/-- A draft is completed in the same way in both sessions. -/
theorem completeDraft {drafted other : Step Session SessionError Draft}
    (drafts : Step.Beside Restamped Eq drafted other) (name : String) :
    Step.Beside Restamped Eq (drafted.andThen fun session draft => session.complete name draft)
      (other.andThen fun session draft => session.complete name draft) := by
  refine drafts.andThen ?_
  rintro before after draft _ placed rfl
  exact placed.complete name draft

/-- An ordinary transaction comes to the same in both sessions. -/
theorem ordinary (sessions : left.Restamped right) (name : String) (spends : List Spend)
    (outputs : List Output) :
    Step.Beside Restamped Eq (left.ordinary name spends outputs)
      (right.ordinary name spends outputs) :=
  completeDraft (sessions.draftOrdinary name spends outputs) name

/-- A generation transaction comes to the same in both sessions. -/
theorem generation (sessions : left.Restamped right) (name : String) (owner : Owner) :
    Step.Beside Restamped Eq (left.generation name owner) (right.generation name owner) :=
  completeDraft (sessions.draftGeneration owner) name

/-- The blocks built on any two blocks name these, and differ otherwise by the clock alone. -/
theorem buildBlockOn (sessions : left.Restamped right) (now later : UInt64)
    (previous otherPrevious : Digest) (transactions : List NamedTransaction) :
    Step.SameResult
      (fun block other => block.Restamped other ∧ block.header.previous = previous ∧
        other.header.previous = otherPrevious)
      (left.buildBlockOn now previous transactions)
      (right.buildBlockOn later otherPrevious transactions) := by
  unfold Session.buildBlockOn Block.build
  by_cases nothing : transactions.map NamedTransaction.transaction = []
  · rw [if_pos nothing, if_pos nothing]
    exact .error _
  · rw [if_neg nothing, if_neg nothing]
    have version := congrArg SessionConfig.blockVersion sessions.config
    exact .ok ⟨⟨version, rfl, rfl, rfl, rfl⟩, rfl, rfl⟩

/-- Blocks on the tips of their sessions are accepted or refused on both sides. -/
theorem acceptBlock (sessions : left.Restamped right) {block other : Block}
    (blocks : block.Restamped other) (onTip : block.header.previous = left.chain.tip)
    (otherOnTip : other.header.previous = right.chain.tip) :
    Step.Beside Restamped Eq (left.acceptBlock block) (right.acceptBlock other) := by
  unfold Session.acceptBlock
  refine ((sessions.chain.accept blocks onTip otherOnTip).within
    (fun chains => { sessions with chain := chains }) _).andThen ?_
  rintro before after height _ placed rfl
  have announced := placed.announcer.announceAll (placed.chain.blockEvents height)
  exact ⟨{ placed with announcer := announced }, .cons (.same _) .nil, .ok rfl⟩

/-- A new block is built on the tip of its own chain, so in neither run is it refused for being
off the tip. -/
theorem newBlock (sessions : left.Restamped right) (now later : UInt64)
    (transactions : List NamedTransaction) :
    Step.Beside Restamped Block.Restamped (left.newBlock now transactions)
      (right.newBlock later transactions) := by
  have built := sessions.buildBlockOn now later left.chain.tip right.chain.tip transactions
  unfold Session.newBlock Session.buildBlock
  generalize left.buildBlockOn now left.chain.tip transactions = block,
    right.buildBlockOn later right.chain.tip transactions = other at built
  cases built with
  | error error => exact .failed sessions _
  | ok built =>
    obtain ⟨blocks, onTip, otherOnTip⟩ := built
    exact (sessions.acceptBlock blocks onTip otherOnTip).andThen fun accepted _ =>
      .done accepted blocks

/-- The step lemma: the same request at another time succeeds or fails alike and leaves
corresponding sessions. -/
theorem perform (sessions : left.Restamped right) {operation other : Operation}
    (request : operation.Restamped other) :
    Step.Beside Restamped Outcome.Restamped (left.perform operation) (right.perform other) := by
  have named {first second : NamedTransaction} (same : first = second) :
      Outcome.Restamped (.registered first) (.registered second) := same ▸ .registered first
  cases request with
  | listen listener =>
    exact .done { sessions with announcer := sessions.announcer.listen listener } .nothing
  | add transaction => exact (sessions.add transaction).andThen_done fun _ => named rfl
  | ordinary name spends outputs => exact (sessions.ordinary name spends outputs).andThen_done named
  | generation name owner => exact (sessions.generation name owner).andThen_done named
  | buildBlock now later transactions =>
    have built := sessions.buildBlockOn now later left.chain.tip right.chain.tip transactions
    exact ⟨sessions, .nil, (built.mapError _).map fun blocks => .built blocks.1⟩
  | buildBlockOn now later previous transactions =>
    have built := sessions.buildBlockOn now later previous previous transactions
    exact ⟨sessions, .nil, (built.mapError _).map fun blocks => .built blocks.1⟩
  | newBlock now later transactions =>
    exact (sessions.newBlock now later transactions).andThen_done .built

/-- The drafts do not depend on the clock. -/
theorem draft? (sessions : left.Restamped right) {operation other : Operation}
    (request : operation.Restamped other) : left.draft? operation = right.draft? other := by
  cases request with
  | ordinary name spends outputs =>
    exact congrArg Except.toOption (sessions.draftOrdinary name spends outputs).result.eq
  | generation name owner =>
    exact congrArg Except.toOption (sessions.draftGeneration owner).result.eq
  | listen | add | buildBlock | buildBlockOn | newBlock => rfl

end Session.Restamped

/-! ## Runs -/

/-- What two operations at different times have in common: whether and why they fail, what they
build, report and leave. -/
structure Occurrence.Agrees (left right : Occurrence) : Prop where
  result : Step.SameResult Outcome.Restamped left.step.result right.step.result
  built : left.built = right.built
  notices : List.Forall₂ Notice.Restamped left.step.notices right.step.notices
  available : left.step.state.unspent.available = right.step.state.unspent.available
  height : left.step.state.chain.height = right.step.state.chain.height
  transactions : left.step.state.chain.transactions = right.step.state.chain.transactions
  generations : left.step.state.generations = right.step.state.generations
  blocks : ∀ height, Option.Rel PlacedBlock.Restamped
    (left.step.state.chain.blockAt? height) (right.step.state.chain.blockAt? height)
  events : ∀ number, List.Forall₂ RecordedEvent.Restamped
    (left.step.state.announcer.journal number) (right.step.state.announcer.journal number)

namespace Session

/-- An operation and its counterpart agree in everything that the clock does not show in. -/
theorem Restamped.agrees {left right : Session} (sessions : left.Restamped right)
    {operation other : Operation} (request : operation.Restamped other) :
    Occurrence.Agrees ⟨left, operation⟩ ⟨right, other⟩ :=
  have beside := sessions.perform request
  { result := beside.result
    built := by rw [Occurrence.built, Occurrence.built, sessions.draft? request]
    notices := beside.notices
    available := congrArg Unspent.available beside.state.unspent
    height := beside.state.chain.height
    transactions := beside.state.chain.transactions
    generations := beside.state.generations
    blocks := beside.state.chain.blockAt?
    events := beside.state.announcer.journal }

/-- The run lemma: from corresponding sessions on, the same requests at other times agree one by
one. -/
theorem Restamped.occurrences {left right : Session} (sessions : left.Restamped right)
    {operations others : List Operation}
    (requests : List.Forall₂ Operation.Restamped operations others) :
    List.Forall₂ Occurrence.Agrees (left.occurrences operations) (right.occurrences others) := by
  induction requests generalizing left right with
  | nil => exact .nil
  | cons first _ ih => exact .cons (sessions.agrees first) (ih (sessions.perform first).state)

/-- The clock shows in the timestamps and ids of blocks alone. Whatever it reads, the same
requests succeed or fail with the same error, build the same transactions and leave the same
outputs, height, known transactions and count of generations; the blocks at each height differ
by their timestamps and by the ids that follow from them, and so do the recorded events. -/
theorem clock_shows_in_blocks_only (config : SessionConfig) {operations others : List Operation}
    (requests : List.Forall₂ Operation.Restamped operations others) :
    List.Forall₂ Occurrence.Agrees ((start config).occurrences operations)
      ((start config).occurrences others) :=
  (Restamped.start config).occurrences requests

/-- A recorded run at two times: its block is accepted in both, and the requests without inputs
or transactions are refused in both. -/
theorem clock_shows_in_blocks_only_at_two_times :
    let owner := Owner.address "o"
    let named : NamedTransaction := ⟨"a", (start .default).nextGeneration owner⟩
    let operations (now later : UInt64) : List Operation :=
      [.listen (.recorder 0), .generation "a" owner, .ordinary "b" [] [], .newBlock now [named],
        .newBlock later []]
    List.Forall₂ Operation.Restamped (operations 3 4) (operations 5 9) ∧
      List.Forall₂ Occurrence.Agrees ((start .default).occurrences (operations 3 4))
        ((start .default).occurrences (operations 5 9)) := by
  intro owner named operations
  have requests : List.Forall₂ Operation.Restamped (operations 3 4) (operations 5 9) :=
    .cons (.listen _) (.cons (.generation _ _) (.cons (.ordinary _ _ _)
      (.cons (.newBlock _ _ _) (.cons (.newBlock _ _ _) .nil))))
  exact ⟨requests, clock_shows_in_blocks_only .default requests⟩

end Session
end PocketLedger
