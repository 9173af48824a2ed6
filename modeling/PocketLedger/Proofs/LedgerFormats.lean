import PocketLedger.Block.Format
import PocketLedger.Keys.Format
import PocketLedger.Proofs.Json.Records

/-!
# Ledger values are read back from their texts

The formats of the ledger are made of scalars, lists and records, which read back what they
write. An owner is an object with a single entry that names its kind. Transactions and blocks
carry an entry for their id, which is passed over like any unknown entry.
-/

namespace PocketLedger

open Json
open Text (Glyph glyphs)

variable {depth : Nat}

/-- An outpoint is read back: it is a record of two scalars. -/
theorem OutPoint.readsBack (point : OutPoint) : format.ReadsBack (depth + 1) point :=
  Format.readsBack_record
    (.cons (Format.readsBack_digest _) (.cons (Format.readsBack_uint32 _) .nil)) (by decide) rfl

/-! ## Owners -/

namespace Owner

/-- An owner is closed after its only entry. -/
theorem settles_close {texts : List (List Char)} {text : List Char}
    (continued : Continued '}' texts text) (owner : Owner) :
    Settles (close owner) text (if texts = [] then some owner else none) := by
  cases continued with
  | done isBlanks =>
    intro rest _
    rw [close, skipBlanks_before isBlanks rfl]
    rfl
  | next beforeBlank =>
    intro rest _
    refine ⟨.malformed, ?_⟩
    rw [close, skipBlanks_before beforeBlank rfl]
    rfl

/-- Blanks in front of an owner are passed over. -/
theorem idles_read (room : Nat) : Idles (read room) := by
  intro before blanks rest
  simp only [read, skipBlanks_append blanks]

/-- What is made of an object: its first entry names the kind of owner, and there may be no
second one. -/
theorem finds_object {room : Nat} {texts : List (List Char)} {text firstText key value : List Char}
    (enclosed : Enclosed '{' '}' (firstText :: texts) text)
    (isEntry : IsEntry (key, value) firstText) {kind : Option (List Char)}
    (named : Settles Json.text key kind) (found : List Char → Option Owner)
    (valued : ∀ name, kind = some name → ∀ ⦃before after⦄, IsBlanks before → IsBlanks after →
      Settles (readKind room name) (before ++ ':' :: (after ++ value)) (found name)) :
    Finds (read (room + 1)) text (kind.bind fun name => (found name).bind fun owner =>
      if texts = [] then some owner else none) := by
  cases enclosed with | @items before _ tail _ beforeBlank continued
  obtain @⟨_, beforeColon, afterColon, _, beforeColonBlank, afterColonBlank⟩ := isEntry
  have ends : ∀ rest, EndsNumber rest → EndsNumber (glyphs tail ++ rest) :=
    fun rest _ => continued.endsNumber rfl rest
  have endsKey := endsNumber_colon beforeColonBlank (afterColon ++ value) tail
  have kindRead : Settles readKindName (before ++ '"' :: key) kind := by
    refine named.behindMark before '"' fun rest => ?_
    rw [readKindName, skipBlanks_append beforeBlank]
    rfl
  have whole := kindRead.andThen (fun name isKind =>
    (valued name isKind beforeColonBlank afterColonBlank).andThen
      (fun owner _ => settles_close continued owner) ends) endsKey
  have inner : Settles (read (room + 1)) _ _ := whole.behind ['{'] fun rest => rfl
  simp only [List.append_assoc, List.cons_append, List.nil_append] at inner ⊢
  exact inner.finds (idles_read _)

/-- A written owner is read back if the value of its entry is. -/
theorem finds_written {room : Nat} {kind : String} {value : List Char} {owner : Owner}
    (valued : ∀ ⦃before after⦄, IsBlanks before → IsBlanks after →
      Settles (readKind room kind.toList) (before ++ ':' :: (after ++ value)) (some owner)) :
    Finds (read (room + 1)) (writeObject [(kind, value)]) (some owner) := by
  refine finds_object (enclosed_commas '{' '}' _) (isEntry_writeEntry (kind, value))
    (settles_text_written kind.toList) (fun _ => some owner) fun name isKind => ?_
  rwa [← Option.some.inj isKind]

/-- Both kinds of owner are read back. A script is a list of bytes, so it takes one level more than
an address. -/
theorem readsBack (owner : Owner) : format.ReadsBack (depth + 2) owner where
  isValue := by
    cases owner with
    | address name =>
      have isValue := (@Format.readsBack_text depth name).isValue
      exact isValue_writeObject (List.forall_mem_singleton.mpr isValue)
    | script code =>
      have isValue := (@Format.readsBack_bytes depth code).isValue
      exact isValue_writeObject (List.forall_mem_singleton.mpr isValue)
  finds room enough := by
    obtain ⟨room, rfl⟩ : ∃ less, room = less + 1 := ⟨room - 1, by omega⟩
    cases owner with
    | address name =>
      refine finds_written fun before after beforeBlank afterBlank => ?_
      have found := (Format.readsBack_text name).finds room (Nat.zero_le _)
      exact (settles_entryValue found beforeBlank afterBlank).mapValue Owner.address
    | script code =>
      refine finds_written fun before after beforeBlank afterBlank => ?_
      have found := (Format.readsBack_bytes code).finds room (Nat.le_of_succ_le_succ enough)
      exact (settles_entryValue found beforeBlank afterBlank).mapValue Owner.script

end Owner

/-- An output is read back, with its owner inside. -/
theorem Output.readsBack (output : Output) : format.ReadsBack (depth + 3) output :=
  Format.readsBack_record
    (.cons (Format.readsBack_uint64 _) (.cons (Owner.readsBack _) .nil)) (by decide) rfl

/-- An output is read back together with the outpoint that names it. -/
theorem Coin.readsBack (coin : Coin) : format.ReadsBack (depth + 4) coin :=
  Format.readsBack_record
    (.cons (OutPoint.readsBack _) (.cons (Output.readsBack _) .nil)) (by decide) rfl

/-- An input is read back. Its outpoint and its script are one level down. -/
theorem Input.readsBack (input : Input) : format.ReadsBack (depth + 2) input :=
  Format.readsBack_record
    (.cons (OutPoint.readsBack _)
      (.cons (Format.readsBack_bytes _) (.cons (Format.readsBack_uint32 _) .nil))) (by decide) rfl

/-- A header is read back: it is a record of scalars. -/
theorem Header.readsBack (header : Header) : format.ReadsBack (depth + 1) header :=
  Format.readsBack_record
    (.cons (Format.readsBack_uint32 _)
      (.cons (Format.readsBack_digest _)
        (.cons (Format.readsBack_digest _)
          (.cons (Format.readsBack_uint64 _)
            (.cons (Format.readsBack_uint32 _) (.cons (Format.readsBack_uint64 _) .nil))))))
    (by decide) rfl

/-- An address card is read back, with or without a key. -/
theorem AddressCard.readsBack (card : AddressCard) : format.ReadsBack (depth + 2) card :=
  Format.readsBack_record
    (.cons (Format.readsBack_optionalText _)
      (.cons (Format.readsBack_text _)
        (.cons (Format.readsBack_text _)
          (.cons (Format.readsBack_text _)
            (.cons (Format.readsBack_text _)
              (.cons (Format.readsBack_text _) (.cons (Format.readsBack_bytes _) .nil)))))))
    (by decide) rfl

/-! ## Texts with any id -/

namespace Transaction

/-- A text with the entries of a transaction in any order, and anything in place of its id. -/
inductive Forged (tx : Transaction) : List Char → Prop
  | mk {id text : List Char} {entries : List (String × List Char)} (isValue : IsValue id)
      (shuffled : entries.Perm (fields.entries tx.row ++ [("hash", id)]))
      (isObject : IsObject (entries.map spelled) text) : Forged tx text

/-- The fields of a transaction other than its id are read back. -/
theorem fields_readsBack (tx : Transaction) : fields.ReadsBack (depth + 4) tx.row :=
  .cons (Format.readsBack_uint32 _)
    (.cons (Format.readsBack_list fun input _ => Input.readsBack input)
      (.cons (Format.readsBack_list fun output _ => Output.readsBack output)
        (.cons (Format.readsBack_uint32 _) .nil)))

/-- The written text has the id itself in the place of the id. -/
theorem forged_write (tx : Transaction) : tx.Forged (format.write tx) :=
  .mk (.scalar (isScalar_writeText _)) .rfl (isObject_writeObject _)

/-- A forged transaction is still a JSON value, so whatever holds it can be passed over. -/
theorem Forged.isValue {tx : Transaction} {text : List Char} (forged : tx.Forged text) :
    IsValue text := by
  obtain ⟨isValue, shuffled, isObject⟩ := forged
  refine isValue_spelled isObject fun entry mem => ?_
  rcases List.mem_append.mp (shuffled.mem_iff.mp mem) with known | mem
  · exact (@fields_readsBack 0 tx).isValue entry known
  · obtain rfl := List.mem_singleton.mp mem
    exact isValue

/-- A forged id does not matter. -/
theorem Forged.finds {tx : Transaction} {text : List Char} (forged : tx.Forged text) {room : Nat}
    (enough : 5 ≤ room) : Finds (format.read room) text (some tx) := by
  obtain ⟨room, rfl⟩ : ∃ less, room = less + 1 := ⟨room - 1, by omega⟩
  obtain ⟨isValue, shuffled, isObject⟩ := forged
  have unknown : "hash" ∉ fields.names := by decide
  have finds := tx.fields_readsBack.finds (by decide) (Nat.le_of_succ_le_succ enough)
    [("hash", _)] (by simpa using ⟨unknown, isValue⟩) (by simp) shuffled isObject
  exact fun before blanks => (finds blanks).mapValue ofRow

/-- A transaction is read back: its own text is one of those with any id. -/
theorem readsBack (tx : Transaction) : format.ReadsBack (depth + 5) tx where
  isValue := tx.forged_write.isValue
  finds _ enough := tx.forged_write.finds (Nat.le_trans (Nat.le_add_left _ _) enough)

end Transaction

namespace Block

/-- A text with the entries of a block in any order, and anything in place of its id and of the
ids of its transactions. -/
inductive Forged (block : Block) : List Char → Prop
  | mk {id list text : List Char} {texts : List (List Char)} {entries : List (String × List Char)}
      (isValue : IsValue id)
      (transactions : List.Forall₂ Transaction.Forged block.transactions texts)
      (enclosed : Enclosed '[' ']' texts list)
      (shuffled : entries.Perm
        [("header", Header.format.write block.header), ("transactions", list), ("hash", id)])
      (isObject : IsObject (entries.map spelled) text) : Forged block text

/-- The written text has the ids themselves in the places of ids. -/
theorem forged_write (block : Block) : block.Forged (format.write block) := by
  refine .mk (.scalar (isScalar_writeText _)) ?_ (enclosed_writeList _) (.cons _ (.swap _ _ _))
    (isObject_writeObject _)
  rw [List.forall₂_map_right_iff, List.forall₂_same]
  exact fun tx _ => tx.forged_write

/-- Texts of transactions are values. -/
theorem isValue_of_forged {transactions : List Transaction} {texts : List (List Char)}
    (forged : List.Forall₂ Transaction.Forged transactions texts) :
    ∀ text ∈ texts, IsValue text := by
  induction forged with
  | nil => exact nofun
  | cons first _ ih => exact List.forall_mem_cons.mpr ⟨first.isValue, ih⟩

/-- A forged block is still a JSON value. -/
theorem Forged.isValue {block : Block} {text : List Char} (forged : block.Forged text) :
    IsValue text := by
  obtain ⟨isValue, transactions, enclosed, shuffled, isObject⟩ := forged
  refine isValue_spelled isObject fun entry mem => ?_
  have known := shuffled.mem_iff.mp mem
  simp only [List.mem_cons, List.not_mem_nil, or_false] at known
  rcases known with rfl | rfl | rfl
  · exact (@Header.readsBack 0 block.header).isValue
  · exact .list enclosed (isValue_of_forged transactions)
  · exact isValue

/-- The transactions are read, whatever stands in place of their ids. -/
theorem finds_transactions {transactions : List Transaction} {texts : List (List Char)}
    (forged : List.Forall₂ Transaction.Forged transactions texts) {list : List Char}
    (enclosed : Enclosed '[' ']' texts list) {room : Nat} (enough : 5 ≤ room) :
    Finds ((Format.list Transaction.format).read (room + 1)) list (some transactions) := by
  have found : List.Forall₂ (fun text tx => Finds (Transaction.format.read room) text (some tx))
      texts transactions := forged.flip.imp fun text tx forged => forged.finds enough
  rw [← gather_map_some transactions]
  exact Format.finds_list enclosed (List.forall₂_map_right_iff.mpr found)
    fun text mem => (isValue_of_forged forged text mem).opens

/-- Neither the forged id of a block nor those of its transactions matter. -/
theorem Forged.finds {block : Block} {text : List Char} (forged : block.Forged text) {room : Nat}
    (enough : 7 ≤ room) : Finds (format.read room) text (some block) := by
  obtain ⟨room, rfl⟩ : ∃ less, room = less + 2 := ⟨room - 2, by omega⟩
  obtain @⟨id, list, text, texts, entries, isValue, transactions, enclosed, shuffled, isObject⟩ :=
    forged
  have foundHeader := (Header.readsBack block.header).finds (room + 1) (Nat.le_add_left _ _)
  have roomInside : 5 ≤ room := by omega
  have foundList := finds_transactions transactions enclosed roomInside
  have other : "transactions" ≠ "header" := by decide
  have unknown : "hash" ∉ fields.names := by decide
  have once : (fields.names ++ ["hash"]).Nodup := by decide
  have keys : (entries.map Prod.fst).Perm (fields.names ++ ["hash"]) := shuffled.map Prod.fst
  have finds : Finds (fields.read (room + 2)) text (some block.row) := by
    refine Fields.finds_object (by decide) ?_ ?_ ?_ isObject
    · intro entry mem
      have known := shuffled.mem_iff.mp mem
      simp only [List.mem_cons, List.not_mem_nil, or_false] at known
      rcases known with rfl | rfl | rfl
      · exact .inl (.here foundHeader)
      · exact .inl (.there other (.here foundList))
      · exact .inr ⟨unknown, isValue⟩
    · exact keys.nodup_iff.mpr once
    · exact fun name mem => keys.mem_iff.mpr (List.mem_append_left _ mem)
  exact fun before blanks => (finds blanks).mapValue ofRow

/-- A block is read back, within seven levels of lists and objects. -/
theorem readsBack (block : Block) : format.ReadsBack (depth + 7) block where
  isValue := block.forged_write.isValue
  finds _ enough := block.forged_write.finds (Nat.le_trans (Nat.le_add_left _ _) enough)

end Block

/-! ## Reading what was written -/

/-- Every value of the ledger is read back from its text, and with it the ids of transactions and
blocks, which are taken anew of what is read. -/
theorem ledger_formats_faithful :
    (Format.digest.Faithful ∧ OutPoint.format.Faithful ∧ Owner.format.Faithful ∧
      Input.format.Faithful ∧ Output.format.Faithful ∧ Coin.format.Faithful ∧
      Transaction.format.Faithful ∧ Header.format.Faithful ∧ Block.format.Faithful ∧
      AddressCard.format.Faithful) ∧
    (∀ tx, (Transaction.format.ofText (Transaction.format.toText tx)).map Transaction.id =
      .ok tx.id) ∧
    ∀ block, (Block.format.ofText (Block.format.toText block)).map Block.id = .ok block.id := by
  have transactions : Transaction.format.Faithful := .of_readsBack Transaction.readsBack
  have blocks : Block.format.Faithful := .of_readsBack Block.readsBack
  refine ⟨⟨.of_readsBack Format.readsBack_digest, .of_readsBack OutPoint.readsBack,
    .of_readsBack Owner.readsBack, .of_readsBack Input.readsBack, .of_readsBack Output.readsBack,
    .of_readsBack Coin.readsBack, transactions, .of_readsBack Header.readsBack, blocks,
    .of_readsBack AddressCard.readsBack⟩, fun tx => ?_, fun block => ?_⟩
  · rw [transactions tx]
    rfl
  · rw [blocks block]
    rfl

end PocketLedger
