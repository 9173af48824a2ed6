import PocketLedger.Block.Basic
import PocketLedger.Transaction.Format

/-!
# JSON formats of blocks

As with transactions, the id of a block is written as the entry `hash` and passed over when
the block is read.
-/

namespace PocketLedger

open Json (Fields Format Row)

/-- Headers. -/
def Header.format : Format Header :=
  .record
    (.cons "version" .uint32 none
      (.cons "previous_hash" .digest none
        (.cons "merkle_root" .digest none
          (.cons "timestamp" .uint64 none
            (.cons "target" .uint32 none (.cons "nonce" .uint64 none .nil))))))
    (fun header => (header.version, header.previous, header.merkleRoot, header.timestamp,
      header.target, header.nonce, ()))
    (fun (version, previous, merkleRoot, timestamp, target, nonce, ()) =>
      ⟨version, previous, merkleRoot, timestamp, target, nonce⟩)

namespace Block

/-- The fields of a block. -/
def fields : Fields [Header, List Transaction] :=
  .cons "header" Header.format none (.cons "transactions" (.list Transaction.format) none .nil)

/-- The values of the fields. -/
def row (block : Block) : Row [Header, List Transaction] := (block.header, block.transactions, ())

/-- The block with the given fields. -/
def ofRow : Row [Header, List Transaction] → Block :=
  fun (header, transactions, ()) => ⟨header, transactions⟩

/-- Blocks. The id comes second. -/
def format : Format Block where
  write block := Json.writeObject
    [("header", Header.format.write block.header),
      ("hash", Format.digest.write block.id),
      ("transactions", (Format.list Transaction.format).write block.transactions)]
  read room glyphs := (fields.read room glyphs).mapValue ofRow

end Block
end PocketLedger
