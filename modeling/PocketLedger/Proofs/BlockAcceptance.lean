import PocketLedger.Proofs.Journal

/-!
# How blocks are accepted and refused

A block is refused off the tip, and on the tip only if there is no height above it. A block that
the session makes itself is on the tip, so what can be wrong with it is that it has no transaction
or that the heights are used up. A refused block changes nothing at all. An accepted one is the
best block in every way in which a chain can be asked for it, and the outputs are left alone.
-/

namespace PocketLedger

/-- A step with another value fails as the step does. -/
theorem Step.map_result_eq_error_iff {σ ε α β : Type} (step : Step σ ε α) (value : α → β)
    (error : ε) : step.result.map value = .error error ↔ step.result = .error error := by
  cases step.result <;> simp [Except.map]

/-! ## The best block -/

/-- A block is the best of a chain, and every lookup says so. -/
structure Chain.IsBest (chain : Chain) (placed : PlacedBlock) : Prop where
  last : chain.bestBlock? = some placed
  tip_eq : chain.tip = placed.block.id
  height_eq : chain.height = placed.height
  at_height : chain.blockAt? placed.height = some placed
  by_id : chain.blockById? placed.block.id = some placed

/-- A block that is put on the tip of a chain with a history is the best. -/
theorem Chain.Holds.isBest_extend {genesisHeight : UInt64} {genesis : Digest}
    {history : List PlacedBlock} {chain : Chain} (holds : Holds genesisHeight genesis history chain)
    {block : Block} {height : UInt64} (onTip : block.header.previous = chain.tip)
    (above : height.toNat = chain.height.toNat + 1) :
    (chain.extend block height).IsBest ⟨height, block⟩ := by
  obtain ⟨byId, atHeight⟩ := (holds.extend onTip above).lookups_last
  refine ⟨?_, extend_tip .., extend_height .., atHeight, byId⟩
  rw [bestBlock?, extend_blocks, Array.back?_push]

namespace Session

/-! ## Any block -/

/-- There is no height above the one of the tip. -/
def AtLastHeight (session : Session) : Prop := session.chain.height.toNat + 1 = UInt64.size

/-- Below the last height the next one does not wrap around. -/
theorem toNat_height_succ {session : Session} (room : ¬ session.AtLastHeight) :
    (session.chain.height + 1).toNat = session.chain.height.toNat + 1 := by
  have bound := session.chain.height.toNat_lt_size
  have one : (1 : UInt64).toNat = 1 := rfl
  have size : UInt64.size = 18446744073709551616 := rfl
  unfold AtLastHeight at room
  rw [UInt64.toNat_add, one]
  omega

/-- At the last height a block on the tip is refused for the height. -/
theorem acceptBlock_of_last {session : Session} {block : Block}
    (onTip : block.header.previous = session.chain.tip) (last : session.AtLastHeight) :
    session.acceptBlock block = .failed session (.block (.heightOverflow session.chain.height)) := by
  unfold AtLastHeight at last
  rw [acceptBlock, Chain.accept, if_neg (not_not_intro onTip), if_pos last]
  rfl

/-- What becomes of a block, by its place first and by the height then. -/
theorem acceptBlock_verdict (session : Session) (block : Block) :
    (block.header.previous ≠ session.chain.tip ∧ session.acceptBlock block =
      .failed session (.block (.notOnTip session.chain.tip block.header.previous))) ∨
    (block.header.previous = session.chain.tip ∧ session.AtLastHeight ∧ session.acceptBlock block =
      .failed session (.block (.heightOverflow session.chain.height))) ∨
    (block.header.previous = session.chain.tip ∧ ¬ session.AtLastHeight ∧
      session.acceptBlock block = ⟨session.extended block (session.chain.height + 1),
        [.blockAccepted block.id (session.chain.height + 1),
          .chainAdvanced (session.chain.height + 1)], .ok (session.chain.height + 1)⟩) := by
  by_cases onTip : block.header.previous = session.chain.tip
  · by_cases last : session.AtLastHeight
    · exact .inr (.inl ⟨onTip, last, acceptBlock_of_last onTip last⟩)
    · exact .inr (.inr ⟨onTip, last, acceptBlock_of_onTip onTip last⟩)
  · exact .inl ⟨onTip, acceptBlock_of_offTip onTip⟩

/-- A block is refused off the tip and at the last height, for the first reason that applies. -/
theorem acceptBlock_error_iff (session : Session) (block : Block) (error : SessionError) :
    (session.acceptBlock block).result = .error error ↔
      (block.header.previous ≠ session.chain.tip ∧
        error = .block (.notOnTip session.chain.tip block.header.previous)) ∨
      (block.header.previous = session.chain.tip ∧ session.AtLastHeight ∧
        error = .block (.heightOverflow session.chain.height)) := by
  rcases session.acceptBlock_verdict block with ⟨off, step⟩ | ⟨onTip, last, step⟩ |
    ⟨onTip, room, step⟩
  · rw [step, Step.failed]
    simp [off, eq_comm]
  · rw [step, Step.failed]
    simp [onTip, last, eq_comm]
  · rw [step]
    simp [onTip, room]

/-- A refused block changes nothing. -/
theorem acceptBlock_of_error {session : Session} {block : Block} {error : SessionError}
    (failed : (session.acceptBlock block).result = .error error) :
    (session.acceptBlock block).state = session := by
  rcases session.acceptBlock_verdict block with ⟨_, step⟩ | ⟨_, _, step⟩ | ⟨_, _, step⟩
  · rw [step]
    rfl
  · rw [step]
    rfl
  · rw [step] at failed
    cases failed

/-- Whatever becomes of a block, the outputs and the count of generations stay. -/
theorem acceptBlock_leaves (session : Session) (block : Block) :
    (session.acceptBlock block).state.unspent = session.unspent ∧
      (session.acceptBlock block).state.generations = session.generations := by
  have idle : (Operation.acceptBlock block).transacts = false := rfl
  have leaves := session.perform_leavesOutputs idle
  rw [perform, Step.andThen_done] at leaves
  exact ⟨leaves.unspent, leaves.generations⟩

/-! ## Blocks of the session's own -/

/-- The block that the session makes of transactions, on its tip. -/
def nextBlock (session : Session) (now : UInt64) (transactions : List NamedTransaction) : Block :=
  let contents := transactions.map NamedTransaction.transaction
  ⟨⟨session.config.blockVersion, session.chain.tip, Block.merkleRoot contents, now, 0, 0⟩, contents⟩

/-- A new block commits to its transactions. -/
theorem commits_nextBlock (session : Session) (now : UInt64)
    (transactions : List NamedTransaction) : (session.nextBlock now transactions).commits = true :=
  beq_self_eq_true _

/-- There is no new block without transactions. -/
theorem newBlock_of_nil (session : Session) (now : UInt64) :
    session.newBlock now [] = .failed session (.block .empty) := rfl

/-- A block of some transactions is made, and then it is treated as any block. -/
theorem newBlock_of_ne_nil (session : Session) (now : UInt64) {transactions : List NamedTransaction}
    (nonempty : transactions ≠ []) :
    session.newBlock now transactions =
      ⟨(session.acceptBlock (session.nextBlock now transactions)).state,
        (session.acceptBlock (session.nextBlock now transactions)).notices,
        (session.acceptBlock (session.nextBlock now transactions)).result.map fun _ =>
          session.nextBlock now transactions⟩ := by
  have built : session.buildBlock now transactions = .ok (session.nextBlock now transactions) := by
    rw [buildBlock, buildBlockOn, Block.build, if_neg (by simpa using nonempty)]
    rfl
  rw [newBlock, built]
  exact Step.andThen_done _ _

/-- A new block is refused for having no transactions, else for the height, and never for its
place. -/
theorem newBlock_error_iff (session : Session) (now : UInt64)
    (transactions : List NamedTransaction) (error : SessionError) :
    (session.newBlock now transactions).result = .error error ↔
      (transactions = [] ∧ error = .block .empty) ∨
      (transactions ≠ [] ∧ session.AtLastHeight ∧
        error = .block (.heightOverflow session.chain.height)) := by
  by_cases nothing : transactions = []
  · rw [nothing, newBlock_of_nil, Step.failed]
    simp [eq_comm]
  · have onTip : (session.nextBlock now transactions).header.previous = session.chain.tip := rfl
    rw [newBlock_of_ne_nil session now nothing, Step.map_result_eq_error_iff,
      acceptBlock_error_iff]
    simp [onTip, nothing]

/-- A new block that fails changes nothing. -/
theorem newBlock_of_error {session : Session} {now : UInt64} {transactions : List NamedTransaction}
    {error : SessionError} (failed : (session.newBlock now transactions).result = .error error) :
    (session.newBlock now transactions).state = session := by
  by_cases nothing : transactions = []
  · rw [nothing]
    rfl
  · rw [newBlock_of_ne_nil session now nothing] at failed ⊢
    exact acceptBlock_of_error ((Step.map_result_eq_error_iff _ _ error).mp failed)

/-- A new block leaves the outputs and the count of generation transactions. -/
theorem newBlock_leaves (session : Session) (now : UInt64)
    (transactions : List NamedTransaction) :
    (session.newBlock now transactions).state.unspent = session.unspent ∧
      (session.newBlock now transactions).state.generations = session.generations := by
  have idle : (Operation.newBlock now transactions).transacts = false := rfl
  have leaves := session.perform_leavesOutputs idle
  rw [perform, Step.andThen_done] at leaves
  exact ⟨leaves.unspent, leaves.generations⟩

/-- A block of some transactions, made where there is a height above the tip, becomes the best
block. -/
theorem newBlock_of_room {session : Session} {genesisHeight : UInt64} {genesis : Digest}
    {history : List PlacedBlock}
    (holds : Chain.Holds genesisHeight genesis history session.chain) (now : UInt64)
    {transactions : List NamedTransaction} (nonempty : transactions ≠ [])
    (room : ¬ session.AtLastHeight) :
    (session.newBlock now transactions).result = .ok (session.nextBlock now transactions) ∧
      (session.newBlock now transactions).state.chain.IsBest
        ⟨session.chain.height + 1, session.nextBlock now transactions⟩ := by
  have onTip : (session.nextBlock now transactions).header.previous = session.chain.tip := rfl
  rw [newBlock_of_ne_nil session now nonempty, acceptBlock_of_onTip onTip room]
  exact ⟨rfl, holds.isBest_extend onTip (toNat_height_succ room)⟩

/-- In every session that a run can reach, a new block is refused exactly for having no
transactions or, else, for having no height, and never for its place. Every other is made of the
given transactions on the tip, commits to them and is the best block afterwards. In any session at
all a block is refused exactly off the tip, which is tested first, or at the last height. What is
refused changes nothing, and what is accepted leaves the outputs and the count of generations. -/
theorem blocks_extend_tip_or_change_nothing :
    (∀ config operations now transactions,
      let session := (start config).performAll operations
      let step := session.newBlock now transactions
      (step.result = .error (.block .empty) ↔ transactions = []) ∧
      (∀ height, step.result = .error (.block (.heightOverflow height)) ↔
        transactions ≠ [] ∧ session.AtLastHeight ∧ height = session.chain.height) ∧
      (∀ expected found, step.result ≠ .error (.block (.notOnTip expected found))) ∧
      (transactions ≠ [] → ¬ session.AtLastHeight →
        ∃ block, step.result = .ok block ∧
          block.header.previous = session.chain.tip ∧
          block.commits ∧
          block.transactions = transactions.map NamedTransaction.transaction ∧
          (session.chain.height + 1).toNat = session.chain.height.toNat + 1 ∧
          step.state.chain.IsBest ⟨session.chain.height + 1, block⟩)) ∧
    (∀ (session : Session) (block : Block),
      let step := session.acceptBlock block
      (∀ error, step.result = .error error ↔
        (block.header.previous ≠ session.chain.tip ∧
          error = .block (.notOnTip session.chain.tip block.header.previous)) ∨
        (block.header.previous = session.chain.tip ∧ session.AtLastHeight ∧
          error = .block (.heightOverflow session.chain.height))) ∧
      (∀ error, step.result = .error error → step.state = session) ∧
      step.state.unspent = session.unspent ∧ step.state.generations = session.generations) ∧
    (∀ (session : Session) (now : UInt64) (transactions : List NamedTransaction),
      let step := session.newBlock now transactions
      (∀ error, step.result = .error error → step.state = session) ∧
      step.state.unspent = session.unspent ∧ step.state.generations = session.generations) := by
  refine ⟨?_, ?_, ?_⟩
  · intro config operations now transactions session step
    have refused := session.newBlock_error_iff now transactions
    refine ⟨?_, ?_, ?_, ?_⟩
    · rw [refused]
      simp
    · intro height
      rw [refused]
      simp
    · intro expected found
      rw [ne_eq, refused]
      simp
    · intro nonempty room
      obtain ⟨made, best⟩ := newBlock_of_room (chain_holds config operations) now nonempty room
      exact ⟨session.nextBlock now transactions, made, rfl, session.commits_nextBlock now _, rfl,
        toNat_height_succ room, best⟩
  · intro session block step
    exact ⟨session.acceptBlock_error_iff block, fun _ => acceptBlock_of_error,
      session.acceptBlock_leaves block⟩
  · intro session now transactions step
    exact ⟨fun _ => newBlock_of_error, session.newBlock_leaves now transactions⟩

end Session
end PocketLedger
