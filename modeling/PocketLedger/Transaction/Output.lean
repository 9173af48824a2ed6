import PocketLedger.Amount
import PocketLedger.Transaction.OutPoint

/-!
# Outputs

An output holds an amount for an owner. A coin is an output together with the outpoint that
names it.
-/

namespace PocketLedger

/-- Who may spend an output. -/
inductive Owner where
  /-- The holder of a coin address. -/
  | address (name : String)
  /-- Whoever satisfies a script. -/
  | script (code : Bytes)
  deriving DecidableEq

namespace Owner

/-- The text of an owner. -/
def text : Owner → String
  | .address name => name
  | .script code => "script:" ++ Hex.text code

instance : Text.Outline Owner where
  outline
    | .address name => Text.applied "Address" (Text.outline name)
    | .script code => Text.applied "Script" (Text.outline code)

end Owner

/-- An amount held for an owner. -/
structure Output where
  amount : UInt64
  owner : Owner
  deriving DecidableEq

instance : Text.Outline Output where
  outline output := Text.record "TransactionOutput" [
    Text.field "amount" (Text.outline output.amount),
    Text.field "ownership" (Text.outline output.owner)]

/-- An output with the outpoint that names it. -/
structure Coin where
  outpoint : OutPoint
  output : Output
  deriving DecidableEq

instance : Text.Outline Coin where
  outline coin := Text.record "OutputWithOutPoint" [
    Text.field "outpoint" (Text.outline coin.outpoint),
    Text.field "output" (Text.outline coin.output)]

end PocketLedger
