import PocketLedger.Unspent

/-!
# Drafts of transactions

A draft collects inputs and outputs. An input takes its output out of the unspent set at
once, and the output is not put back if the draft comes to nothing. A draft becomes a
transaction if it has inputs and, where one of them generates value, no other.
-/

namespace PocketLedger

/-- Why inputs do not make a transaction. -/
inductive ShapeError where
  /-- There are no inputs. -/
  | noInputs
  /-- An input generates value beside other inputs. -/
  | generationNotAlone
  /-- The ordinary transaction of this name was to spend nothing. -/
  | nothingSpent (name : String)
  deriving DecidableEq

/-- The wording of a shape error. -/
def ShapeError.message : ShapeError → String
  | .noInputs => "transaction has no inputs"
  | .generationNotAlone => "generation input must be the only input"
  | .nothingSpent name => "ordinary transaction " ++ name ++ " has no inputs"

/-- Why a transaction was not made. -/
inductive TransactionError where
  | shape (error : ShapeError)
  | unspent (error : UnspentError)
  deriving DecidableEq

/-- The wording of a transaction error. -/
def TransactionError.message : TransactionError → String
  | .shape error => "Invalid transaction shape: " ++ error.message
  | .unspent error => error.message

/-- A transaction in the making. -/
structure Draft where
  version : UInt32
  inputs : List Input
  outputs : List Output
  locktime : UInt32
  deriving DecidableEq

namespace Draft

/-- A draft without inputs and outputs. -/
def empty : Draft := ⟨Transaction.currentVersion, [], [], 0⟩

/-- Spend an outpoint and add the input that does so. -/
def spend (draft : Draft) (set : Unspent) (spend : Spend) :
    Step Unspent TransactionError Draft :=
  ((set.spend spend.outpoint).within (fun set => set) TransactionError.unspent).andThen
    fun set _ => .done set { draft with inputs := draft.inputs ++ [spend.input] }

/-- Spend several outpoints in order, up to the first that is not present. -/
def spendAll (draft : Draft) : (spends : List Spend) → (set : Unspent) →
    Step Unspent TransactionError Draft
  | [], set => .done set draft
  | first :: rest, set =>
    (draft.spend set first).andThen fun set draft => draft.spendAll rest set

/-- Add an input that generates value and carries a marker. -/
def generate (draft : Draft) (marker : Bytes) : Draft :=
  { draft with inputs := draft.inputs ++ [⟨OutPoint.null, marker, Input.finalSequence⟩] }

/-- Add an output. -/
def pay (draft : Draft) (output : Output) : Draft :=
  { draft with outputs := draft.outputs ++ [output] }

/-- Add outputs in order. -/
def payAll (draft : Draft) (outputs : List Output) : Draft := outputs.foldl pay draft

/-- The transaction that a draft becomes. -/
def build (draft : Draft) : Except TransactionError Transaction :=
  if draft.inputs = [] then .error (.shape .noInputs)
  else if draft.inputs.any Input.isGeneration ∧ 1 < draft.inputs.length then
    .error (.shape .generationNotAlone)
  else .ok ⟨draft.version, draft.inputs, draft.outputs, draft.locktime⟩

instance : Text.Outline Draft where
  outline draft := Text.record "TransactionBuilder" [
    Text.field "version" (Text.outline draft.version),
    Text.field "inputs" (Text.outline draft.inputs),
    Text.field "outputs" (Text.outline draft.outputs),
    Text.field "locktime" (Text.outline draft.locktime)]

end Draft
end PocketLedger
