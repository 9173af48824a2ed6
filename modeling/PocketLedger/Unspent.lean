import PocketLedger.Notice
import PocketLedger.Transaction.Basic
import Std.Data.ExtTreeMap

/-!
# Unspent outputs

The outputs that can be spent, by outpoint. An outpoint is present at most once, from the time
its output is added until it is spent. The listing is in ascending order of outpoints, so it
depends on the contents only.
-/

namespace PocketLedger

/-- Why an output could not be added or spent. -/
inductive UnspentError where
  /-- The outpoint is present already. -/
  | duplicate (point : OutPoint)
  /-- The outpoint is not present. -/
  | unknown (point : OutPoint)
  deriving DecidableEq

/-- The wording of an error. -/
def UnspentError.message : UnspentError → String
  | .duplicate point => "Duplicate output: " ++ point.text
  | .unknown point => "Unknown output: " ++ point.text

/-- The set of unspent outputs. -/
structure Unspent where
  /-- The outputs by outpoint. -/
  outputs : Std.ExtTreeMap OutPoint Output

namespace Unspent

/-- No outputs. -/
def empty : Unspent := ⟨∅⟩

/-- The output at an outpoint. -/
def get? (set : Unspent) (point : OutPoint) : Option Output := set.outputs[point]?

/-- Whether an outpoint is present. -/
def contains (set : Unspent) (point : OutPoint) : Bool := set.outputs.contains point

/-- The number of outputs. -/
def size (set : Unspent) : Nat := set.outputs.size

/-- Whether there are no outputs. -/
def isEmpty (set : Unspent) : Bool := set.outputs.isEmpty

/-- All outputs in ascending order of outpoints. -/
def available (set : Unspent) : List (OutPoint × Output) := set.outputs.toList

/-- The outputs of an owner, in ascending order of outpoints. -/
def outputsOf (set : Unspent) (owner : Owner) : List (OutPoint × Output) :=
  set.available.filter fun entry => entry.2.owner = owner

/-- The sum of the outputs of an owner. -/
def balanceOf (set : Unspent) (owner : Owner) : Except AmountError UInt64 :=
  Amount.sum ((set.outputsOf owner).map fun entry => entry.2.amount)

/-- Add an output at an outpoint that is not present. -/
def add (set : Unspent) (point : OutPoint) (output : Output) : Step Unspent UnspentError Unit :=
  if set.contains point then .failed set (.duplicate point)
  else ⟨⟨set.outputs.insert point output⟩, [.outputAdded point output], .ok ()⟩

/-- Add outputs under consecutive indices, up to the first that is present. The index is a
32-bit word, so it starts again at zero after `2 ^ 32` outputs. -/
def addFrom (txId : Digest) : (index : Nat) → List Output → Unspent → Step Unspent UnspentError Unit
  | _, [], set => .done set ()
  | index, output :: rest, set =>
    (set.add ⟨txId, index.toUInt32⟩ output).andThen fun set () => addFrom txId (index + 1) rest set

/-- Add all outputs of a transaction under its id. -/
def addOutputs (set : Unspent) (tx : Transaction) : Step Unspent UnspentError Unit :=
  addFrom tx.id 0 tx.outputs set

/-- Remove the output at an outpoint. -/
def spend (set : Unspent) (point : OutPoint) : Step Unspent UnspentError Output :=
  match set.get? point with
  | none => .failed set (.unknown point)
  | some output => ⟨⟨set.outputs.erase point⟩, [.outputSpent point], .ok output⟩

end Unspent
end PocketLedger
