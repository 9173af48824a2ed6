import PocketLedger.Hashing.Merkle
import PocketLedger.Transaction.Basic

/-!
# Blocks

A block is a header and a list of transactions. Its id is the digest of the header, which
commits to the transactions by the merkle root of their ids.
-/

namespace PocketLedger

/-- Why a block was not built or not accepted. -/
inductive BlockError where
  /-- A block needs a transaction. -/
  | empty
  /-- The block does not name the tip as the block before it. -/
  | notOnTip (expected found : Digest)
  /-- There is no height above this one. -/
  | heightOverflow (height : UInt64)
  deriving DecidableEq

/-- The wording of a block error. -/
def BlockError.message : BlockError → String
  | .empty => "Cannot build a block without transactions"
  | .notOnTip expected found =>
    "Block does not extend the tip: expected previous " ++ expected.text ++ ", found " ++ found.text
  | .heightOverflow height => "Block height overflows past " ++ toString height.toNat

/-- The header of a block. -/
structure Header where
  version : UInt32
  /-- The id of the block before. -/
  previous : Digest
  /-- The merkle root of the transaction ids. -/
  merkleRoot : Digest
  timestamp : UInt64
  target : UInt32
  nonce : UInt64
  deriving DecidableEq

namespace Header

/-- The text that the id is taken of: the fields, without anything between them. -/
def content (header : Header) : List Char :=
  Text.outline header.version ++ header.previous.hex ++ header.merkleRoot.hex ++
    Text.outline header.timestamp ++ Text.outline header.target ++ Text.outline header.nonce

/-- The id of a block with this header. -/
def id (header : Header) : Digest := Digest.ofContent header.content

instance : Text.Outline Header where
  outline header := Text.record "BlockHeader" [
    Text.field "version" (Text.outline header.version),
    Text.field "previous_hash" (Text.outline header.previous),
    Text.field "merkle_root" (Text.outline header.merkleRoot),
    Text.field "timestamp" (Text.outline header.timestamp),
    Text.field "target" (Text.outline header.target),
    Text.field "nonce" (Text.outline header.nonce)]

end Header

/-- A block. -/
structure Block where
  header : Header
  transactions : List Transaction
  deriving DecidableEq

namespace Block

/-- The version of blocks, unless another is asked for. -/
def defaultVersion : UInt32 := 4

/-- The id of a block. -/
def id (block : Block) : Digest := block.header.id

/-- The merkle root of transactions. -/
def merkleRoot (transactions : List Transaction) : Digest :=
  Merkle.root (transactions.map Transaction.id)

/-- Whether the header commits to the transactions. -/
def commits (block : Block) : Bool := merkleRoot block.transactions == block.header.merkleRoot

/-- Build a block of transactions, of which there has to be one. -/
def build (transactions : List Transaction) (previous : Digest) (timestamp : UInt64)
    (version target : UInt32) (nonce : UInt64) : Except BlockError Block :=
  if transactions = [] then .error .empty
  else .ok ⟨⟨version, previous, merkleRoot transactions, timestamp, target, nonce⟩, transactions⟩

instance : Text.Outline Block where
  outline block := Text.record "Block" [
    Text.field "header" (Text.outline block.header),
    Text.field "hash" (Text.outline block.id),
    Text.field "transactions" (Text.outline block.transactions)]

end Block
end PocketLedger
