import PocketLedger.Hashing.Digest

/-!
# Outpoints

An outpoint names one output of one transaction. Outpoints are ordered by the bytes of the
transaction id and then by the index, and this order is lawful, so that they can key maps.
-/

namespace PocketLedger

/-- A reference to one output of one transaction. -/
structure OutPoint where
  /-- The id of the transaction. -/
  txId : Digest
  /-- The position of the output. -/
  index : UInt32
  deriving DecidableEq

namespace OutPoint

/-- The outpoint of an input that spends nothing. -/
def null : OutPoint := ⟨Digest.zero, 0xffffffff⟩

/-- Whether an outpoint is the null one. -/
def isNull (point : OutPoint) : Bool := point == null

/-- The text of an outpoint. -/
def text (point : OutPoint) : String := point.txId.text ++ ":" ++ toString point.index.toNat

instance : Text.Outline OutPoint where
  outline point := Text.record "OutPoint" [
    Text.field "tx_hash" (Text.outline point.txId),
    Text.field "index" (Text.outline point.index)]

/-- By transaction id, then by index. -/
instance : Ord OutPoint :=
  ⟨compareLex (compareOn OutPoint.txId) (compareOn OutPoint.index)⟩

instance : Std.TransOrd OutPoint :=
  inferInstanceAs (Std.TransCmp
    (compareLex (compareOn OutPoint.txId) (compareOn OutPoint.index)))

instance : Std.LawfulEqOrd OutPoint where
  eq_of_compare {left right} h := by
    have both : (compare left.txId right.txId).then (compare left.index right.index) = .eq := h
    rw [Ordering.then_eq_eq] at both
    cases left; cases right
    simpa using ⟨Std.LawfulEqOrd.eq_of_compare both.1, Std.LawfulEqOrd.eq_of_compare both.2⟩

end OutPoint
end PocketLedger
