import PocketLedger.Hashing.Sha256
import PocketLedger.Transaction.Output

/-!
# Transactions

A transaction spends the outputs that its inputs name and creates outputs of its own. Its id
is the digest of its content: the outlines of its parts, one after the other.
-/

namespace PocketLedger

/-- The use of an outpoint by a transaction. -/
structure Input where
  /-- What is spent; the null outpoint if the input generates new value. -/
  outpoint : OutPoint
  /-- The data that unlocks the output, or the marker of a generation input. -/
  unlockingScript : Bytes
  sequence : UInt32
  deriving DecidableEq

namespace Input

/-- The sequence number of an input that is not to be replaced. -/
def finalSequence : UInt32 := 0xffffffff

/-- Whether the input generates new value instead of spending an output. -/
def isGeneration (input : Input) : Bool := input.outpoint.isNull

instance : Text.Outline Input where
  outline input := Text.record "TransactionInput" [
    Text.field "outpoint" (Text.outline input.outpoint),
    Text.field "unlocking_script" (Text.outline input.unlockingScript),
    Text.field "sequence" (Text.outline input.sequence)]

end Input

/-- A transaction. -/
structure Transaction where
  version : UInt32
  inputs : List Input
  outputs : List Output
  locktime : UInt32
  deriving DecidableEq

namespace Transaction

/-- The version of new transactions. -/
def currentVersion : UInt32 := 1

/-- The text that the id is taken of. -/
def content (tx : Transaction) : List Char :=
  Text.outline tx.version ++ Text.outline tx.inputs ++ Text.outline tx.outputs ++
    Text.outline tx.locktime

/-- The id of a transaction. -/
def id (tx : Transaction) : Digest := Digest.ofContent tx.content

/-- Whether the transaction has a single input, which generates new value. -/
def isGeneration (tx : Transaction) : Bool :=
  match tx.inputs with
  | [input] => input.isGeneration
  | _ => false

/-- The sum of all outputs. -/
def totalOutput (tx : Transaction) : Except AmountError UInt64 :=
  Amount.sum (tx.outputs.map Output.amount)

/-- The outpoint of the output at a position. -/
def outpoint (tx : Transaction) (index : UInt32) : OutPoint := ⟨tx.id, index⟩

/-- The output at a position, ready to be spent. -/
def coin? (tx : Transaction) (index : UInt32) : Option Coin :=
  tx.outputs[index.toNat]?.map fun output => ⟨tx.outpoint index, output⟩

/-- Whether two transactions do the same: they agree in version, in the outpoints they spend
and in the outputs they create. Unlocking scripts, sequences and locktime are not compared. -/
def equivalent (actual expected : Transaction) : Bool :=
  actual.version == expected.version &&
    actual.outputs.length == expected.outputs.length &&
    actual.inputs.length == expected.inputs.length &&
    (actual.outputs.zip expected.outputs).all (fun (left, right) =>
      left.amount == right.amount && left.owner == right.owner) &&
    (actual.inputs.zip expected.inputs).all fun (left, right) => left.outpoint == right.outpoint

instance : Text.Outline Transaction where
  outline tx := Text.record "Transaction" [
    Text.field "version" (Text.outline tx.version),
    Text.field "inputs" (Text.outline tx.inputs),
    Text.field "outputs" (Text.outline tx.outputs),
    Text.field "locktime" (Text.outline tx.locktime),
    Text.field "hash" (Text.outline tx.id)]

end Transaction

/-- A transaction with a name for diagnostics. -/
structure NamedTransaction where
  name : String
  transaction : Transaction
  deriving DecidableEq

/-- A wish to spend an outpoint, with the rest of the input that does so. -/
structure Spend where
  outpoint : OutPoint
  unlockingScript : Bytes
  sequence : UInt32
  deriving DecidableEq

namespace Spend

/-- Spend a coin without unlocking data. -/
def ofCoin (coin : Coin) : Spend := ⟨coin.outpoint, [], Input.finalSequence⟩

/-- The input that a spend becomes. -/
def input (spend : Spend) : Input := ⟨spend.outpoint, spend.unlockingScript, spend.sequence⟩

instance : Text.Outline Spend where
  outline spend := Text.record "Spend" [
    Text.field "outpoint" (Text.outline spend.outpoint),
    Text.field "unlocking_script" (Text.outline spend.unlockingScript),
    Text.field "sequence" (Text.outline spend.sequence)]

end Spend
end PocketLedger
