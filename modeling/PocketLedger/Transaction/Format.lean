import PocketLedger.Json.Format
import PocketLedger.Transaction.Basic

/-!
# JSON formats of transactions

The id of a transaction is written beside its content, as the entry `hash`. Reading passes it
over like any unknown entry, so a forged id has no effect.
-/

namespace PocketLedger

open Json (Fields Format Row Scanned)
open Text (Glyph)

/-- Outpoints. -/
def OutPoint.format : Format OutPoint :=
  .record (.cons "tx_hash" .digest none (.cons "index" .uint32 none .nil))
    (fun point => (point.txId, point.index, ()))
    (fun (txId, index, ()) => ⟨txId, index⟩)

namespace Owner

/-- The owner that a kind and the text after its colon stand for. -/
def readKind (room : Nat) (kind : List Char) (glyphs : List Glyph) : Scanned Owner :=
  if kind = "Address".toList then
    (Json.entryValue (Format.text.read room) glyphs).mapValue .address
  else if kind = "Script".toList then
    (Json.entryValue (Format.bytes.read room) glyphs).mapValue .script
  else .error .mistyped

/-- The end of an owner. -/
def close (owner : Owner) (glyphs : List Glyph) : Scanned Owner :=
  match Json.skipBlanks glyphs with
  | [] => .error .truncated
  | .char '}' :: rest => .ok (owner, rest)
  | _ => .error .malformed

/-- The kind of an owner. It is a key, so only a text can stand here. -/
def readKindName (glyphs : List Glyph) : Scanned (List Char) :=
  match Json.skipBlanks glyphs with
  | [] => .error .truncated
  | .char '"' :: rest => Json.text rest
  | _ => .error .malformed

/-- An owner is an object with a single entry, whose key is the kind of owner. A lone text is
a kind without its value; anything else is not an owner at all. -/
def read (room : Nat) (glyphs : List Glyph) : Scanned Owner :=
  match Json.skipBlanks glyphs with
  | [] => .error .truncated
  | .char '{' :: rest =>
    Format.descend room fun room =>
      (readKindName rest).andThen fun kind rest => (readKind room kind rest).andThen close
  | .char '"' :: rest => (Json.text rest).andThen fun _ _ => .error .mistyped
  | _ => .error .malformed

/-- Owners. -/
def format : Format Owner where
  write
    | .address name => Json.writeObject [("Address", Format.text.write name)]
    | .script code => Json.writeObject [("Script", Format.bytes.write code)]
  read := read

end Owner

/-- Outputs. -/
def Output.format : Format Output :=
  .record (.cons "amount" .uint64 none (.cons "ownership" Owner.format none .nil))
    (fun output => (output.amount, output.owner, ()))
    (fun (amount, owner, ()) => ⟨amount, owner⟩)

/-- Coins. -/
def Coin.format : Format Coin :=
  .record (.cons "outpoint" OutPoint.format none (.cons "output" Output.format none .nil))
    (fun coin => (coin.outpoint, coin.output, ()))
    (fun (outpoint, output, ()) => ⟨outpoint, output⟩)

/-- Inputs. -/
def Input.format : Format Input :=
  .record
    (.cons "outpoint" OutPoint.format none
      (.cons "unlocking_script" .bytes none (.cons "sequence" .uint32 none .nil)))
    (fun input => (input.outpoint, input.unlockingScript, input.sequence, ()))
    (fun (outpoint, script, sequence, ()) => ⟨outpoint, script, sequence⟩)

namespace Transaction

/-- The fields of a transaction. -/
def fields : Fields [UInt32, List Input, List Output, UInt32] :=
  .cons "version" .uint32 none
    (.cons "inputs" (.list Input.format) none
      (.cons "outputs" (.list Output.format) none (.cons "locktime" .uint32 none .nil)))

/-- The values of the fields. -/
def row (tx : Transaction) : Row [UInt32, List Input, List Output, UInt32] :=
  (tx.version, tx.inputs, tx.outputs, tx.locktime, ())

/-- The transaction with the given fields. -/
def ofRow : Row [UInt32, List Input, List Output, UInt32] → Transaction :=
  fun (version, inputs, outputs, locktime, ()) => ⟨version, inputs, outputs, locktime⟩

/-- Transactions. The id comes last. -/
def format : Format Transaction where
  write tx := Json.writeObject (fields.entries tx.row ++ [("hash", Format.digest.write tx.id)])
  read room glyphs := (fields.read room glyphs).mapValue ofRow

end Transaction
end PocketLedger
