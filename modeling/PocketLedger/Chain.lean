import PocketLedger.Block.Basic
import PocketLedger.Notice
import Std.Data.ExtTreeMap

/-!
# Chains

A chain grows by one block at a time on its tip. It finds blocks by height and by id, and
knows every transaction that was registered or came in a block. Heights are 64-bit words and
do not wrap around.
-/

namespace PocketLedger

/-- A block with the height it was accepted at. -/
structure PlacedBlock where
  height : UInt64
  block : Block
  deriving DecidableEq

/-- A chain of blocks. -/
structure Chain where
  /-- The height of the tip before the first block. -/
  genesisHeight : UInt64
  /-- The id of the last block, or of the genesis if there is none. -/
  tip : Digest
  /-- The height of the tip. -/
  height : UInt64
  /-- The accepted blocks, oldest first. -/
  blocks : Array PlacedBlock
  /-- The position of the latest block of each id. -/
  positions : Std.ExtTreeMap Digest Nat
  /-- The known transactions. -/
  transactions : Std.ExtTreeMap Digest Transaction

namespace Chain

/-- A chain without blocks. -/
def start (genesisHeight : UInt64) (genesis : Digest) : Chain :=
  ⟨genesisHeight, genesis, genesisHeight, #[], ∅, ∅⟩

/-- A chain without blocks that starts at height zero on the zero digest. -/
def empty : Chain := start 0 Digest.zero

/-- The number of accepted blocks. -/
def blockCount (chain : Chain) : Nat := chain.blocks.size

/-- The number of known transactions. -/
def transactionCount (chain : Chain) : Nat := chain.transactions.size

/-- The known transaction of an id. -/
def transaction? (chain : Chain) (id : Digest) : Option Transaction := chain.transactions[id]?

/-- The last accepted block. -/
def bestBlock? (chain : Chain) : Option PlacedBlock := chain.blocks.back?

/-- The block at a height. -/
def blockAt? (chain : Chain) (height : UInt64) : Option PlacedBlock :=
  if chain.genesisHeight < height then
    chain.blocks[height.toNat - chain.genesisHeight.toNat - 1]?
  else none

/-- The latest block of an id. -/
def blockById? (chain : Chain) (id : Digest) : Option PlacedBlock :=
  chain.positions[id]?.bind fun position => chain.blocks[position]?

/-- Make a transaction known under an id. -/
def register (chain : Chain) (id : Digest) (tx : Transaction) : Chain :=
  { chain with transactions := chain.transactions.insert id tx }

/-- Make transactions known under their own ids, in order. -/
def registerAll (chain : Chain) (transactions : List Transaction) : Chain :=
  transactions.foldl (fun chain tx => chain.register tx.id tx) chain

/-- Put a block on the tip, at the given height. -/
def extend (chain : Chain) (block : Block) (height : UInt64) : Chain :=
  let chain := chain.registerAll block.transactions
  { chain with
    tip := block.id
    height := height
    positions := chain.positions.insert block.id chain.blocks.size
    blocks := chain.blocks.push ⟨height, block⟩ }

/-- Accept a block that names the tip as the block before it, and give its height. That the
block is on the tip is tested first. -/
def accept (chain : Chain) (block : Block) : Step Chain BlockError UInt64 :=
  if block.header.previous ≠ chain.tip then
    .failed chain (.notOnTip chain.tip block.header.previous)
  else if chain.height.toNat + 1 = UInt64.size then .failed chain (.heightOverflow chain.height)
  else
    let height := chain.height + 1
    ⟨chain.extend block height, [.blockAccepted block.id height], .ok height⟩

end Chain
end PocketLedger
