import Mathlib.Data.List.Induction
import PocketLedger.Chain

/-!
# The history of a chain

A chain keeps its tip, its height, its blocks and their positions apart from each other. Over
any run of calls, with blocks accepted and refused, all of them tell one history: the list of
accepted blocks with the heights that were given for them. `Holds` is what each call keeps.
-/

namespace PocketLedger.Chain

/-! ## What the calls do -/

/-- Making transactions known changes nothing else. -/
theorem registerAll_eq (chain : Chain) (transactions : List Transaction) :
    chain.registerAll transactions =
      { chain with transactions := (chain.registerAll transactions).transactions } := by
  unfold registerAll
  induction transactions generalizing chain with
  | nil => rfl
  | cons tx transactions ih =>
    rw [List.foldl_cons, ih]
    rfl

@[simp]
theorem extend_genesisHeight (chain : Chain) (block : Block) (height : UInt64) :
    (chain.extend block height).genesisHeight = chain.genesisHeight := by
  rw [extend, registerAll_eq]

@[simp]
theorem extend_tip (chain : Chain) (block : Block) (height : UInt64) :
    (chain.extend block height).tip = block.id := rfl

@[simp]
theorem extend_height (chain : Chain) (block : Block) (height : UInt64) :
    (chain.extend block height).height = height := rfl

@[simp]
theorem extend_blocks (chain : Chain) (block : Block) (height : UInt64) :
    (chain.extend block height).blocks = chain.blocks.push ⟨height, block⟩ := by
  rw [extend, registerAll_eq]

@[simp]
theorem extend_positions (chain : Chain) (block : Block) (height : UInt64) :
    (chain.extend block height).positions = chain.positions.insert block.id chain.blocks.size := by
  rw [extend, registerAll_eq]

/-- A registered transaction is found under its id, in the place of an earlier one. -/
theorem transaction?_register (chain : Chain) (id other : Digest) (tx : Transaction) :
    (chain.register id tx).transaction? other =
      if id = other then some tx else chain.transaction? other := by
  simp only [transaction?, register, Std.ExtTreeMap.getElem?_insert,
    Std.LawfulEqCmp.compare_eq_iff_eq]

/-- Of the transactions of one id, the last is known. -/
theorem transaction?_registerAll (chain : Chain) (transactions : List Transaction) (id : Digest) :
    (chain.registerAll transactions).transaction? id =
      (transactions.reverse.find? fun tx => tx.id = id).or (chain.transaction? id) := by
  induction transactions generalizing chain with
  | nil => rfl
  | cons tx transactions ih =>
    have step : chain.registerAll (tx :: transactions) =
        (chain.register tx.id tx).registerAll transactions := rfl
    rw [step, ih, transaction?_register, List.reverse_cons, List.find?_append, Option.or_assoc]
    by_cases same : tx.id = id
    · simp [same]
    · simp [same]

/-- The last transaction of a block with an id is found first, and then what was known before. -/
theorem transaction?_extend (chain : Chain) (block : Block) (height : UInt64) (id : Digest) :
    (chain.extend block height).transaction? id =
      (block.transactions.reverse.find? fun tx => tx.id = id).or (chain.transaction? id) :=
  transaction?_registerAll chain block.transactions id

/-- A block is refused off the tip, refused at the last height, or put on the tip. -/
theorem accept_cases (chain : Chain) (block : Block) :
    (block.header.previous ≠ chain.tip ∧
      chain.accept block = .failed chain (.notOnTip chain.tip block.header.previous)) ∨
    (block.header.previous = chain.tip ∧ chain.height.toNat + 1 = UInt64.size ∧
      chain.accept block = .failed chain (.heightOverflow chain.height)) ∨
    (block.header.previous = chain.tip ∧ (chain.height + 1).toNat = chain.height.toNat + 1 ∧
      chain.accept block = ⟨chain.extend block (chain.height + 1),
        [.blockAccepted block.id (chain.height + 1)], .ok (chain.height + 1)⟩) := by
  unfold accept
  split
  next off => exact .inl ⟨off, rfl⟩
  next on =>
    have onTip : block.header.previous = chain.tip := Decidable.not_not.mp on
    right
    split
    next last => exact .inl ⟨onTip, last, rfl⟩
    next room =>
      have bound := chain.height.toNat_lt
      refine .inr ⟨onTip, ?_, rfl⟩
      rw [UInt64.toNat_add]
      have size : UInt64.size = 18446744073709551616 := rfl
      have one : (1 : UInt64).toNat = 1 := rfl
      omega

/-! ## Runs of calls -/

/-- A call that can change a chain. -/
inductive Call where
  | register (id : Digest) (tx : Transaction)
  | accept (block : Block)

/-- The chain after a call, successful or not. -/
def call (chain : Chain) : Call → Chain
  | .register id tx => chain.register id tx
  | .accept block => (chain.accept block).state

/-- The block that a call put on the tip, with the height given for it. -/
def gained (chain : Chain) : Call → List PlacedBlock
  | .register _ _ => []
  | .accept block =>
    match (chain.accept block).result with
    | .ok height => [⟨height, block⟩]
    | .error _ => []

/-- The chain after calls in order. -/
def callAll (chain : Chain) (calls : List Call) : Chain := calls.foldl call chain

/-- The blocks that calls in order put on the tip. -/
def accepted (chain : Chain) : List Call → List PlacedBlock
  | [] => []
  | first :: rest => chain.gained first ++ (chain.call first).accepted rest

/-! ## The history that a chain tells -/

/-- The tip after a history. -/
def tipAfter (genesis : Digest) (history : List PlacedBlock) : Digest :=
  (history.getLast?.map fun placed => placed.block.id).getD genesis

/-- The position of the latest block of an id. -/
def Latest (history : List PlacedBlock) (id : Digest) (position : Nat) : Prop :=
  (∃ placed, history[position]? = some placed ∧ placed.block.id = id) ∧
    ∀ later placed, position < later → history[later]? = some placed → placed.block.id ≠ id

/-- The chain tells this history, from a genesis at a height. -/
structure Holds (genesisHeight : UInt64) (genesis : Digest) (history : List PlacedBlock)
    (chain : Chain) : Prop where
  genesisHeight_eq : chain.genesisHeight = genesisHeight
  blocks_eq : chain.blocks = history.toArray
  height_eq : chain.height.toNat = genesisHeight.toNat + history.length
  tip_eq : chain.tip = tipAfter genesis history
  /-- Each block is one above the block before. -/
  height_at : ∀ position placed, history[position]? = some placed →
    placed.height.toNat = genesisHeight.toNat + 1 + position
  /-- Each block names what was the tip. -/
  previous_at : ∀ position placed, history[position]? = some placed →
    placed.block.header.previous = tipAfter genesis (history.take position)
  position_iff : ∀ id position, chain.positions[id]? = some position ↔ Latest history id position

@[simp]
theorem tipAfter_concat (genesis : Digest) (history : List PlacedBlock) (placed : PlacedBlock) :
    tipAfter genesis (history ++ [placed]) = placed.block.id := by
  simp [tipAfter]

/-- An entry of a longer history is an old one or the new one. -/
theorem getElem?_concat_eq_some {history : List PlacedBlock} {last placed : PlacedBlock}
    {position : Nat} (found : (history ++ [last])[position]? = some placed) :
    (position < history.length ∧ history[position]? = some placed) ∨
      (position = history.length ∧ last = placed) := by
  by_cases old : position < history.length
  · rw [List.getElem?_append_left old] at found
    exact .inl ⟨old, found⟩
  · have bound : position < (history ++ [last]).length := (List.getElem?_eq_some_iff.mp found).1
    have new : position = history.length := by
      rw [List.length_append, List.length_singleton] at bound
      omega
    rw [new, List.getElem?_concat_length] at found
    exact .inr ⟨new, Option.some.inj found⟩

/-- A new block is the latest of its id, and no other id has a new latest block. -/
theorem latest_concat_iff (history : List PlacedBlock) (last : PlacedBlock) (id : Digest)
    (position : Nat) :
    Latest (history ++ [last]) id position ↔
      if last.block.id = id then position = history.length else Latest history id position := by
  split
  next same =>
    constructor
    · rintro ⟨⟨placed, found, _⟩, noLater⟩
      rcases getElem?_concat_eq_some found with ⟨old, _⟩ | ⟨new, _⟩
      · exact absurd same (noLater history.length last old List.getElem?_concat_length)
      · exact new
    · rintro rfl
      refine ⟨⟨last, List.getElem?_concat_length, same⟩, ?_⟩
      intro later placed after found
      rcases getElem?_concat_eq_some found with ⟨old, _⟩ | ⟨new, _⟩ <;> omega
  next other =>
    constructor
    · rintro ⟨⟨placed, found, ofId⟩, noLater⟩
      rcases getElem?_concat_eq_some found with ⟨_, old⟩ | ⟨_, rfl⟩
      · refine ⟨⟨placed, old, ofId⟩, ?_⟩
        intro later placed' after found'
        refine noLater later placed' after ?_
        rw [List.getElem?_append_left (List.getElem?_eq_some_iff.mp found').1]
        exact found'
      · exact absurd ofId other
    · rintro ⟨⟨placed, found, ofId⟩, noLater⟩
      refine ⟨⟨placed, ?_, ofId⟩, ?_⟩
      · rw [List.getElem?_append_left (List.getElem?_eq_some_iff.mp found).1]
        exact found
      · intro later placed' after found'
        rcases getElem?_concat_eq_some found' with ⟨_, old⟩ | ⟨_, rfl⟩
        · exact noLater later placed' after old
        · exact other

/-- An id that occurs has a latest block. -/
theorem exists_latest {history : List PlacedBlock} {id : Digest} {placed : PlacedBlock}
    (mem : placed ∈ history) (ofId : placed.block.id = id) :
    ∃ position, Latest history id position := by
  induction history using List.reverseRecOn with
  | nil => exact absurd mem List.not_mem_nil
  | append_singleton history last ih =>
    by_cases same : last.block.id = id
    · exact ⟨history.length, (latest_concat_iff history last id _).mpr (by rw [if_pos same])⟩
    · rw [List.mem_append, List.mem_singleton] at mem
      rcases mem with old | rfl
      · obtain ⟨position, latest⟩ := ih old
        exact ⟨position, (latest_concat_iff history last id _).mpr (by rwa [if_neg same])⟩
      · exact absurd ofId same

/-! ## Every call keeps it -/

namespace Holds

variable {genesisHeight : UInt64} {genesis : Digest} {history : List PlacedBlock} {chain : Chain}

/-- A chain without blocks tells the empty history. -/
protected theorem start (genesisHeight : UInt64) (genesis : Digest) :
    Holds genesisHeight genesis [] (Chain.start genesisHeight genesis) where
  genesisHeight_eq := rfl
  blocks_eq := rfl
  height_eq := rfl
  tip_eq := rfl
  height_at := by simp
  previous_at := by simp
  position_iff := by simp [Latest, Chain.start]

/-- Registering a transaction is no part of the history of blocks. -/
protected theorem register (holds : Holds genesisHeight genesis history chain) (id : Digest)
    (tx : Transaction) : Holds genesisHeight genesis history (chain.register id tx) where
  genesisHeight_eq := holds.genesisHeight_eq
  blocks_eq := holds.blocks_eq
  height_eq := holds.height_eq
  tip_eq := holds.tip_eq
  height_at := holds.height_at
  previous_at := holds.previous_at
  position_iff := holds.position_iff

/-- A block on the tip, one above it, lengthens the history. -/
protected theorem extend (holds : Holds genesisHeight genesis history chain) {block : Block}
    {height : UInt64} (onTip : block.header.previous = chain.tip)
    (above : height.toNat = chain.height.toNat + 1) :
    Holds genesisHeight genesis (history ++ [⟨height, block⟩]) (chain.extend block height) where
  genesisHeight_eq := by rw [extend_genesisHeight, holds.genesisHeight_eq]
  blocks_eq := by rw [extend_blocks, holds.blocks_eq, List.push_toArray]
  height_eq := by
    rw [extend_height, above, holds.height_eq, List.length_append, List.length_singleton,
      Nat.add_assoc]
  tip_eq := by rw [extend_tip, tipAfter_concat]
  height_at := by
    intro position placed found
    rcases getElem?_concat_eq_some found with ⟨_, old⟩ | ⟨new, rfl⟩
    · exact holds.height_at position placed old
    · rw [above, holds.height_eq, new]
      omega
  previous_at := by
    intro position placed found
    rcases getElem?_concat_eq_some found with ⟨bound, old⟩ | ⟨new, rfl⟩
    · rw [List.take_append_of_le_length (Nat.le_of_lt bound)]
      exact holds.previous_at position placed old
    · rw [new, List.take_left, ← holds.tip_eq]
      exact onTip
  position_iff := by
    intro id position
    rw [extend_positions, Std.ExtTreeMap.getElem?_insert, latest_concat_iff, holds.blocks_eq]
    by_cases same : block.id = id
    · rw [if_pos (Std.LawfulEqCmp.compare_eq_iff_eq.mpr same), if_pos same, List.size_toArray,
        Option.some.injEq]
      exact eq_comm
    · rw [if_neg (fun equal => same (Std.LawfulEqCmp.eq_of_compare equal)), if_neg same]
      exact holds.position_iff id position

/-- A call adds what it gained to the history. -/
protected theorem call (holds : Holds genesisHeight genesis history chain) (call : Call) :
    Holds genesisHeight genesis (history ++ chain.gained call) (chain.call call) := by
  cases call with
  | register id tx =>
    rw [gained, List.append_nil]
    exact holds.register id tx
  | accept block =>
    rw [gained, Chain.call]
    rcases chain.accept_cases block with ⟨_, step⟩ | ⟨_, _, step⟩ | ⟨onTip, above, step⟩
    · rw [step, Step.failed, List.append_nil]
      exact holds
    · rw [step, Step.failed, List.append_nil]
      exact holds
    · rw [step]
      exact holds.extend onTip above

/-- A run of calls adds all the blocks that it had accepted. -/
protected theorem callAll (holds : Holds genesisHeight genesis history chain) (calls : List Call) :
    Holds genesisHeight genesis (history ++ chain.accepted calls) (chain.callAll calls) := by
  induction calls generalizing chain history with
  | nil =>
    rw [accepted, List.append_nil]
    exact holds
  | cons first rest ih =>
    rw [accepted, ← List.append_assoc]
    exact ih (holds.call first)

/-! ## What the lookups find -/

/-- A block is found at a height exactly if it was accepted at that height. -/
theorem blockAt?_eq_some_iff (holds : Holds genesisHeight genesis history chain)
    (height : UInt64) (placed : PlacedBlock) :
    chain.blockAt? height = some placed ↔ placed ∈ history ∧ placed.height = height := by
  rw [blockAt?, holds.genesisHeight_eq, holds.blocks_eq, List.getElem?_toArray]
  constructor
  · intro found
    split at found
    next above =>
      have aboveNat := UInt64.lt_iff_toNat_lt.mp above
      have there := holds.height_at _ placed found
      refine ⟨List.mem_of_getElem? found, UInt64.toNat_inj.mp ?_⟩
      omega
    next => cases found
  · rintro ⟨mem, rfl⟩
    obtain ⟨position, found⟩ := List.mem_iff_getElem?.mp mem
    have there := holds.height_at position placed found
    have offset : placed.height.toNat - genesisHeight.toNat - 1 = position := by omega
    rw [if_pos (UInt64.lt_iff_toNat_lt.mpr (by omega)), offset, found]

/-- The heights above the genesis up to the tip are the ones with a block. -/
theorem isSome_blockAt?_iff (holds : Holds genesisHeight genesis history chain)
    (height : UInt64) :
    (chain.blockAt? height).isSome ↔ genesisHeight < height ∧ height ≤ chain.height := by
  have top := holds.height_eq
  rw [blockAt?, holds.genesisHeight_eq, holds.blocks_eq, List.getElem?_toArray]
  split
  next above =>
    have aboveNat := UInt64.lt_iff_toNat_lt.mp above
    rw [isSome_getElem?, UInt64.le_iff_toNat_le]
    constructor
    · intro inside
      exact ⟨above, by omega⟩
    · rintro ⟨_, below⟩
      omega
  next notAbove => simp [notAbove]

/-- The block found for an id is the latest of that id. -/
theorem blockById?_eq_some_iff (holds : Holds genesisHeight genesis history chain)
    (id : Digest) (placed : PlacedBlock) :
    chain.blockById? id = some placed ↔
      ∃ position, Latest history id position ∧ history[position]? = some placed := by
  rw [blockById?, Option.bind_eq_some_iff, holds.blocks_eq]
  simp only [holds.position_iff, List.getElem?_toArray]

/-- The ids with a block are those of accepted blocks. -/
theorem isSome_blockById?_iff (holds : Holds genesisHeight genesis history chain) (id : Digest) :
    (chain.blockById? id).isSome ↔ ∃ placed ∈ history, placed.block.id = id := by
  rw [Option.isSome_iff_exists]
  constructor
  · rintro ⟨placed, found⟩
    obtain ⟨position, ⟨⟨placed', there, ofId⟩, _⟩, _⟩ :=
      (holds.blockById?_eq_some_iff id placed).mp found
    exact ⟨placed', List.mem_of_getElem? there, ofId⟩
  · rintro ⟨placed, mem, ofId⟩
    obtain ⟨position, latest⟩ := exists_latest mem ofId
    obtain ⟨placed', there, _⟩ := latest.1
    exact ⟨placed', (holds.blockById?_eq_some_iff id placed').mpr ⟨position, latest, there⟩⟩

/-- A block found for an id is found at its height too. -/
theorem blockAt?_of_blockById? (holds : Holds genesisHeight genesis history chain) {id : Digest}
    {placed : PlacedBlock} (found : chain.blockById? id = some placed) :
    chain.blockAt? placed.height = some placed := by
  obtain ⟨position, _, there⟩ := (holds.blockById?_eq_some_iff id placed).mp found
  exact (holds.blockAt?_eq_some_iff _ _).mpr ⟨List.mem_of_getElem? there, rfl⟩

/-- The first block is on the genesis. -/
theorem previous_first (holds : Holds genesisHeight genesis history chain) {placed : PlacedBlock}
    (first : history[0]? = some placed) : placed.block.header.previous = genesis :=
  holds.previous_at 0 placed first

/-- Every other block is on the block before it. -/
theorem previous_next (holds : Holds genesisHeight genesis history chain) {position : Nat}
    {before placed : PlacedBlock} (there : history[position]? = some before)
    (next : history[position + 1]? = some placed) :
    placed.block.header.previous = before.block.id := by
  rw [holds.previous_at (position + 1) placed next, List.take_add_one, there]
  exact tipAfter_concat genesis _ before

end Holds

/-- After any calls, accepted or refused, everything that a chain can be asked for agrees with
the blocks it accepted: heights without gap or wrap-around, each block on the one before, the
tip, and both lookups. -/
theorem tells_its_history (genesisHeight : UInt64) (genesis : Digest) (calls : List Call) :
    let chain := (start genesisHeight genesis).callAll calls
    let history := (start genesisHeight genesis).accepted calls
    chain.blocks = history.toArray ∧
      chain.height.toNat = genesisHeight.toNat + chain.blockCount ∧
      (∀ position placed, history[position]? = some placed →
        placed.height.toNat = genesisHeight.toNat + 1 + position) ∧
      (∀ placed, history[0]? = some placed → placed.block.header.previous = genesis) ∧
      (∀ position before placed, history[position]? = some before →
        history[position + 1]? = some placed →
          placed.block.header.previous = before.block.id) ∧
      chain.tip = tipAfter genesis history ∧
      (∀ height, (chain.blockAt? height).isSome ↔
        genesisHeight < height ∧ height ≤ chain.height) ∧
      (∀ height placed, chain.blockAt? height = some placed ↔
        placed ∈ history ∧ placed.height = height) ∧
      (∀ id, (chain.blockById? id).isSome ↔ ∃ placed ∈ history, placed.block.id = id) ∧
      ∀ id placed, chain.blockById? id = some placed →
        (∃ position, Latest history id position ∧ history[position]? = some placed) ∧
          chain.blockAt? placed.height = some placed := by
  intro chain history
  have holds : Holds genesisHeight genesis history chain :=
    (Holds.start genesisHeight genesis).callAll calls
  have count : chain.blockCount = history.length := by
    rw [blockCount, holds.blocks_eq, List.size_toArray]
  refine ⟨holds.blocks_eq, ?_, holds.height_at, fun _ => holds.previous_first,
    fun _ _ _ => holds.previous_next, holds.tip_eq, holds.isSome_blockAt?_iff,
    holds.blockAt?_eq_some_iff, holds.isSome_blockById?_iff, ?_⟩
  · rw [count]
    exact holds.height_eq
  · intro id placed found
    exact ⟨(holds.blockById?_eq_some_iff id placed).mp found, holds.blockAt?_of_blockById? found⟩

end PocketLedger.Chain
