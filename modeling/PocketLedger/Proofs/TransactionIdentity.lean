import PocketLedger.Transaction.Basic
import PocketLedger.Proofs.Digest

/-!
# A transaction id identifies the transaction

The content of a transaction is written without lengths and holds text chosen by others, yet
it can be read back: every part of it has a lawful outline. Two transactions with one id are
therefore equal, or their contents collide.
-/

namespace PocketLedger

open Text (Forces LawfulOutline forces)

/-! ## The parts of a transaction -/

instance : LawfulOutline OutPoint where
  starts _ := ⟨'O', _, rfl, by decide⟩
  forces left right := by
    have fields := Forces.joined_cons ((forces left.txId right.txId).field "tx_hash")
      (Forces.joined_singleton ((forces left.index right.index).field "index"))
    refine (fields.record "OutPoint").imp ?_
    rintro ⟨ids, indices⟩
    cases left; cases right
    simp_all

instance : LawfulOutline Owner where
  starts owner := by
    cases owner with
    | address name => exact ⟨'A', _, rfl, by decide⟩
    | script code => exact ⟨'S', _, rfl, by decide⟩
  forces left right := by
    cases left with
    | address name =>
      cases right with
      | address name' =>
        refine ((forces name name').applied "Address").imp ?_
        rintro rfl
        rfl
      | script code =>
        intro leftRest rightRest _ _ same
        exact absurd (List.cons.inj same).1 (by decide)
    | script code =>
      cases right with
      | address name =>
        intro leftRest rightRest _ _ same
        exact absurd (List.cons.inj same).1 (by decide)
      | script code' =>
        refine ((forces code code').applied "Script").imp ?_
        rintro rfl
        rfl

instance : LawfulOutline Output where
  starts _ := ⟨'T', _, rfl, by decide⟩
  forces left right := by
    have fields := Forces.joined_cons ((forces left.amount right.amount).field "amount")
      (Forces.joined_singleton ((forces left.owner right.owner).field "ownership"))
    refine (fields.record "TransactionOutput").imp ?_
    rintro ⟨amounts, owners⟩
    cases left; cases right
    simp_all

instance : LawfulOutline Input where
  starts _ := ⟨'T', _, rfl, by decide⟩
  forces left right := by
    have fields := Forces.joined_cons ((forces left.outpoint right.outpoint).field "outpoint")
      (Forces.joined_cons
        ((forces left.unlockingScript right.unlockingScript).field "unlocking_script")
        (Forces.joined_singleton ((forces left.sequence right.sequence).field "sequence")))
    refine (fields.record "TransactionInput").imp ?_
    rintro ⟨points, scripts, sequences⟩
    cases left; cases right
    simp_all

/-! ## The whole -/

namespace Transaction

/-- The content of a transaction determines it. The version ends where the bracket of the
inputs opens, and the locktime is all that follows the bracket of the outputs. -/
theorem content_injective {left right : Transaction} (same : left.content = right.content) :
    left = right := by
  unfold content at same
  simp only [List.append_assoc] at same
  obtain ⟨versions, afterVersion⟩ := forces left.version right.version
    (Text.endsNumber_cons rfl _) (Text.endsNumber_cons rfl _) same
  obtain ⟨inputs, afterInputs⟩ := Text.outline_list_append_inj afterVersion
  obtain ⟨outputs, afterOutputs⟩ := Text.outline_list_append_inj afterInputs
  have locktimes := Text.outline_injective afterOutputs
  cases left; cases right
  simp_all

/-- Transactions have one id exactly if they are equal or their contents collide. -/
theorem id_eq_iff (left right : Transaction) :
    left.id = right.id ↔ left = right ∨
      Digest.Collision (Digest.message left.content) (Digest.message right.content) := by
  have contents : left.content = right.content ↔ left = right :=
    ⟨content_injective, congrArg content⟩
  rw [← contents]
  exact Digest.ofContent_eq_iff left.content right.content

/-- The content of a transaction is as good as the transaction, and its id is, unless the two
contents collide. -/
theorem content_and_id_identify (left right : Transaction) :
    (left.content = right.content ↔ left = right) ∧
      (left.id = right.id ↔ left = right ∨
        Digest.Collision (Digest.message left.content) (Digest.message right.content)) := by
  exact ⟨⟨content_injective, congrArg content⟩, id_eq_iff left right⟩

end Transaction
end PocketLedger
