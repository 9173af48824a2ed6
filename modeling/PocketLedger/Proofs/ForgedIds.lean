import PocketLedger.Proofs.Json.Alike
import PocketLedger.Proofs.LedgerFormats

/-!
# Ids cannot be forged

The id of a transaction or a block is never read: whatever stands in its place, the content is
read as it is, and the id is taken of it. So texts that differ in ids only, in the one of a block
or in those of its transactions, are read as the same or are both refused.
-/

namespace PocketLedger

open Json
open Text (Glyph glyphs)

/-! ## Steadiness -/

instance : OutPoint.format.Steady := Format.steady_of_fields inferInstance fun _ _ => rfl

namespace Owner

/-- What is no object is refused. -/
theorem finds_other (room : Nat) {first : Char} {others : List Char}
    (solid : isBlank first = false) (notObject : first ≠ '{') :
    Finds (read room) (first :: others) none := by
  have refused : Settles (read room) (first :: others) none := by
    intro rest _
    rw [Text.glyphs_cons, List.cons_append]
    simp only [read, skipBlanks_solid solid]
    split
    next same => cases same
    next same => exact absurd (Text.char_inj same) notObject
    next inner _ =>
      cases Json.text inner with
      | error fault => exact ⟨fault, rfl⟩
      | ok => exact ⟨.mistyped, rfl⟩
    next => exact ⟨.malformed, rfl⟩
  exact refused.finds (idles_read room)

/-- What is made of the value of an owner, given its kind. -/
theorem exists_settles_readKind (room : Nat) (kind : List Char) {value : List Char}
    (isValue : IsValue value) :
    ∃ outcome, ∀ ⦃before after⦄, IsBlanks before → IsBlanks after →
      Settles (readKind room kind) (before ++ ':' :: (after ++ value)) outcome := by
  have texts : Format.text.Steady := inferInstance
  have codes : Format.bytes.Steady := inferInstance
  by_cases isAddress : kind = "Address".toList
  · obtain ⟨outcome, found, _⟩ := texts.alike isValue room
    refine ⟨outcome.map .address, fun before after beforeBlank afterBlank => ?_⟩
    have read := (settles_entryValue found beforeBlank afterBlank).mapValue Owner.address
    exact read.congr fun rest => by rw [readKind, if_pos isAddress]
  · by_cases isScript : kind = "Script".toList
    · obtain ⟨outcome, found, _⟩ := codes.alike isValue room
      refine ⟨outcome.map .script, fun before after beforeBlank afterBlank => ?_⟩
      have read := (settles_entryValue found beforeBlank afterBlank).mapValue Owner.script
      exact read.congr fun rest => by rw [readKind, if_neg isAddress, if_pos isScript]
    · refine ⟨none, fun before after _ _ rest _ => ⟨.mistyped, ?_⟩⟩
      rw [readKind, if_neg isAddress, if_neg isScript]

/-- What is made of an object. -/
theorem exists_finds_object {entries : List (List Char × List Char)} {text : List Char}
    (isObject : IsObject entries text) (keys : ∀ entry ∈ entries, IsTextEnd entry.1)
    (values : ∀ entry ∈ entries, IsValue entry.2) (room : Nat) :
    ∃ outcome, Finds (read room) text outcome := by
  obtain ⟨texts, isEntries, enclosed⟩ := isObject
  cases room with
  | zero =>
    obtain ⟨inner, rfl⟩ := enclosed.starts
    have refused : Settles (read 0) ('{' :: inner) none := fun rest _ => ⟨.malformed, rfl⟩
    exact ⟨none, refused.finds (idles_read 0)⟩
  | succ room =>
    cases isEntries with
    | nil =>
      cases enclosed with | @empty blanks isBlanks
      have refused : Settles (read (room + 1)) ('{' :: (blanks ++ ['}'])) none := by
        intro rest _
        refine ⟨.malformed, ?_⟩
        change (readKindName (glyphs (blanks ++ ['}']) ++ rest)).andThen _ = _
        rw [readKindName, skipBlanks_before isBlanks rfl]
        rfl
      exact ⟨none, refused.finds (idles_read _)⟩
    | @cons entry _ entries texts isEntry others =>
      obtain ⟨kind, named⟩ := exists_settles_text (keys entry List.mem_cons_self)
      choose found valued using fun name =>
        exists_settles_readKind room name (values entry List.mem_cons_self)
      exact ⟨_, finds_object enclosed isEntry named found fun name _ => valued name⟩

instance : format.Steady := by
  refine Format.steady_of_finds fun text isValue room => ?_
  cases isValue with
  | scalar isScalar =>
    obtain ⟨first, others, rfl, opens⟩ := isScalar.starts
    exact ⟨none, finds_other room (solid_of_opensScalar opens) (ne_of_opensScalar opens rfl)⟩
  | list enclosed =>
    obtain ⟨others, rfl⟩ := enclosed.starts
    exact ⟨none, finds_other room rfl (by decide)⟩
  | object isObject keys values => exact exists_finds_object isObject keys values room

end Owner

instance : Output.format.Steady := Format.steady_of_fields inferInstance fun _ _ => rfl
instance : Input.format.Steady := Format.steady_of_fields inferInstance fun _ _ => rfl
instance : Header.format.Steady := Format.steady_of_fields inferInstance fun _ _ => rfl
instance : Transaction.fields.Steady := inferInstanceAs (Fields.cons _ _ _ _).Steady
instance : Transaction.format.Steady := Format.steady_of_fields inferInstance fun _ _ => rfl
instance : Block.fields.Steady := inferInstanceAs (Fields.cons _ _ _ _).Steady

/-! ## Texts that differ in ids -/

/-- An entry for an id, with any value. -/
def IdEntry (entry : List Char × List Char) : Prop := Names entry.1 "hash" ∧ IsValue entry.2

/-- Any value makes an entry for an id. -/
theorem idEntry_spelled {id : List Char} (isValue : IsValue id) : IdEntry (spelled ("hash", id)) :=
  ⟨settles_text_written "hash".toList, isValue⟩

/-- An entry that is kept as it is. -/
def Unchanged (left right : List Char × List Char) : Prop :=
  left = right ∧ IsTextEnd left.1 ∧ IsValue left.2

/-- Entries for ids are ignored where there is no such field. -/
theorem IdEntry.ignored {entry : List Char × List Char} (isId : IdEntry entry) {τs : List Type}
    {fields : Fields τs} (unknown : "hash" ∉ fields.names) : fields.Ignores entry :=
  ⟨"hash", isId.1, unknown, isId.2⟩

/-- An entry that is kept is read alike, by every record whose fields are steady. -/
theorem Unchanged.alike {left right : List Char × List Char} (unchanged : Unchanged left right)
    {τs : List Type} {fields : Fields τs} (steady : fields.Steady) :
    fields.EntryAlike left right := by
  obtain ⟨rfl, isKey, isValue⟩ := unchanged
  exact steady.entryAlike isKey isValue

namespace Transaction

/-- Two objects with the same entries but for those of ids, of which each may have any. -/
inductive DifferInIds : List Char → List Char → Prop
  | mk {left right : List Char} {lefts rights : List (List Char × List Char)}
      (sameBut : SameBut IdEntry Unchanged lefts rights) (isLeft : IsObject lefts left)
      (isRight : IsObject rights right) : DifferInIds left right

/-- The text of a transaction is read alike with other ids or without them. -/
theorem DifferInIds.alike {left right : List Char} (differ : DifferInIds left right) :
    format.Alike left right := by
  obtain ⟨sameBut, isLeft, isRight⟩ := differ
  have alike : SameBut fields.Ignores fields.EntryAlike _ _ :=
    sameBut.imp (fun _ isId => isId.ignored (by decide))
      fun _ _ unchanged => unchanged.alike inferInstance
  exact Format.alike_of_fields (fun _ _ => rfl) alike isLeft isRight

/-- Objects that differ in ids can be items of a list. -/
theorem DifferInIds.opens {left right : List Char} (differ : DifferInIds left right) :
    Opens left ∧ Opens right := by
  obtain ⟨_, isLeft, isRight⟩ := differ
  exact ⟨isLeft.opens, isRight.opens⟩

end Transaction

namespace Block

/-- Entries for transactions: lists of objects that may differ in ids, and of other values. -/
def TransactionsDiffer (left right : List Char × List Char) : Prop :=
  left.1 = right.1 ∧ Names left.1 "transactions" ∧
    ∃ lefts rights, Enclosed '[' ']' lefts left.2 ∧ Enclosed '[' ']' rights right.2 ∧
      List.Forall₂ (fun left right => Transaction.DifferInIds left right ∨
        left = right ∧ IsValue left) lefts rights

/-- Two objects with the same entries but for those of ids, at the top and in transactions. -/
inductive DifferInIds : List Char → List Char → Prop
  | mk {left right : List Char} {lefts rights : List (List Char × List Char)}
      (sameBut : SameBut IdEntry (fun left right =>
        Unchanged left right ∨ TransactionsDiffer left right) lefts rights)
      (isLeft : IsObject lefts left) (isRight : IsObject rights right) : DifferInIds left right

/-- Lists of transactions are read alike if the transactions in them are. -/
theorem TransactionsDiffer.alike {left right : List Char × List Char}
    (differ : TransactionsDiffer left right) : fields.EntryAlike left right := by
  obtain ⟨sameKey, named, lefts, rights, isLeft, isRight, items⟩ := differ
  have each : List.Forall₂ (fun left right => Opens left ∧ Opens right ∧
      Transaction.format.Alike left right) lefts rights := by
    refine items.imp fun left right item => ?_
    rcases item with differ | ⟨rfl, isValue⟩
    · exact ⟨differ.opens.1, differ.opens.2, differ.alike⟩
    · exact ⟨isValue.opens, isValue.opens, Format.Steady.alike isValue⟩
  obtain ⟨leftOpens, each⟩ := (List.forall₂_and_left _ _).mp each
  obtain ⟨rightOpens, alike⟩ := (List.forall₂_and_left _ _).mp each.flip
  have listAlike := Format.alike_list isLeft isRight leftOpens rightOpens alike.flip
  refine ⟨sameKey, _, named, fun name isName => ?_⟩
  obtain rfl := Option.some.inj isName
  exact .there (by decide) (.here listAlike)

/-- The text of a block is read alike with other ids, its own and those of its transactions. -/
theorem DifferInIds.alike {left right : List Char} (differ : DifferInIds left right) :
    format.Alike left right := by
  obtain @⟨lefts, rights, sameBut, isLeft, isRight⟩ := differ
  have alike : SameBut fields.Ignores fields.EntryAlike lefts rights := by
    refine sameBut.imp (fun _ isId => isId.ignored (by decide)) fun left right same => ?_
    rcases same with unchanged | differ
    · exact unchanged.alike inferInstance
    · exact differ.alike
  exact Format.alike_of_fields (fun _ _ => rfl) alike isLeft isRight

end Block

/-! ## Whole texts -/

/-- A text with blanks around it. -/
inductive Padded (text : List Char) : String → Prop
  | mk {before after : List Char} (beforeBlank : IsBlanks before) (afterBlank : IsBlanks after) :
      Padded text (String.ofList (before ++ text ++ after))

/-- A whole text is decoded to what is found in it, whatever blanks are around. -/
theorem Padded.ofText_iff {text : List Char} {whole : String} (padded : Padded text whole)
    {α : Type} {format : Format α} {outcome : Option α}
    (finds : Finds (format.read maximalDepth) text outcome) (value : α) :
    format.ofText whole = .ok value ↔ outcome = some value := by
  obtain ⟨beforeBlank, afterBlank⟩ := padded
  rw [Format.ofText, String.toList_ofList]
  exact Format.decode_iff finds beforeBlank afterBlank value

/-- Texts that are read alike are decoded alike, each with its own blanks. -/
theorem Padded.ofText_alike {left right : List Char} {leftWhole rightWhole : String}
    (leftPadded : Padded left leftWhole) (rightPadded : Padded right rightWhole) {α : Type}
    {format : Format α} (alike : format.Alike left right) (value : α) :
    format.ofText leftWhole = .ok value ↔ format.ofText rightWhole = .ok value := by
  obtain ⟨outcome, foundLeft, foundRight⟩ := alike maximalDepth
  rw [leftPadded.ofText_iff foundLeft, rightPadded.ofText_iff foundRight]

/-- A transaction and a block are read from every text with their content, whatever stands in place
of an id; their ids are taken of what was read. Texts that differ in ids only are read as the same,
or both refused. -/
theorem ids_are_never_read :
    (∀ (tx : Transaction) text whole, tx.Forged text → Padded text whole →
      Transaction.format.ofText whole = .ok tx ∧ tx.id = Digest.ofContent tx.content) ∧
    (∀ (block : Block) text whole, block.Forged text → Padded text whole →
      Block.format.ofText whole = .ok block ∧ block.id = Digest.ofContent block.header.content) ∧
    (∀ left right leftWhole rightWhole, Transaction.DifferInIds left right →
      Padded left leftWhole → Padded right rightWhole → ∀ tx,
        Transaction.format.ofText leftWhole = .ok tx ↔
          Transaction.format.ofText rightWhole = .ok tx) ∧
    ∀ left right leftWhole rightWhole, Block.DifferInIds left right →
      Padded left leftWhole → Padded right rightWhole → ∀ block,
        Block.format.ofText leftWhole = .ok block ↔ Block.format.ofText rightWhole = .ok block := by
  refine ⟨?_, ?_, ?_, ?_⟩
  · intro tx text whole forged padded
    exact ⟨(padded.ofText_iff (forged.finds (by decide)) tx).mpr rfl, rfl⟩
  · intro block text whole forged padded
    exact ⟨(padded.ofText_iff (forged.finds (by decide)) block).mpr rfl, rfl⟩
  · intro left right leftWhole rightWhole differ leftPadded rightPadded
    exact leftPadded.ofText_alike rightPadded differ.alike
  · intro left right leftWhole rightWhole differ leftPadded rightPadded
    exact leftPadded.ofText_alike rightPadded differ.alike

/-- A value that is no id: an object with half a surrogate pair, a number out of range and null. -/
def oddId : List Char :=
  writeList [writeObject [("hash", "\"\\ud800\"".toList)], "-1.5e+999".toList, "null".toList]

/-- A transaction with one output. -/
def paying : Transaction := ⟨1, [], [⟨5, .address "a"⟩], 0⟩

/-- A block with that transaction. -/
def paid : Block := ⟨⟨4, .zero, .zero, 1, 2, 3⟩, [paying]⟩

/-- The entries of the transaction in reverse, behind a value in place of its id. -/
def payingText (id : List Char) : List Char :=
  writeObject (("hash", id) :: (Transaction.fields.entries paying.row).reverse)

/-- The entries of the block in reverse, with values in place of both ids. -/
def paidText (id : List Char) : List Char :=
  writeObject [("hash", id), ("transactions", writeList [payingText id]),
    ("header", Header.format.write paid.header)]

/-- The entries are those of the transaction, shuffled, whatever value the id has. -/
theorem forged_paying {id : List Char} (isValue : IsValue id) : paying.Forged (payingText id) := by
  refine .mk isValue ?_ (isObject_writeObject _)
  rw [← List.reverse_concat]
  exact List.reverse_perm _

/-- The entries are those of the block, shuffled, and its transaction is forged as well. -/
theorem forged_paid {id : List Char} (isValue : IsValue id) : paid.Forged (paidText id) :=
  .mk isValue (.cons (forged_paying isValue) .nil) (enclosed_writeList _)
    (List.reverse_perm [_, _, _]) (isObject_writeObject _)

/-- Two values in the place of the id make texts that differ in ids only. -/
theorem differ_paying {id other : List Char} (isValue : IsValue id) (otherValue : IsValue other) :
    Transaction.DifferInIds (payingText id) (payingText other) := by
  have kept : ∀ entry ∈ (Transaction.fields.entries paying.row).reverse.map spelled,
      Unchanged entry entry := by
    refine List.forall_mem_map.mpr fun entry mem => ⟨rfl, isTextEnd_written entry.1.toList, ?_⟩
    exact (@Transaction.fields_readsBack 0 paying).isValue entry (List.mem_reverse.mp mem)
  refine .mk ?_ (isObject_writeObject _) (isObject_writeObject _)
  exact .skipLeft (idEntry_spelled isValue) (.skipRight (idEntry_spelled otherValue)
    (.of_forall kept))

/-- The same of the block, where both ids are replaced. -/
theorem differ_paid {id other : List Char} (isValue : IsValue id) (otherValue : IsValue other) :
    Block.DifferInIds (paidText id) (paidText other) := by
  have lists : Block.TransactionsDiffer (spelled ("transactions", writeList [payingText id]))
      (spelled ("transactions", writeList [payingText other])) :=
    ⟨rfl, settles_text_written "transactions".toList, _, _, enclosed_writeList _,
      enclosed_writeList _, .cons (.inl (differ_paying isValue otherValue)) .nil⟩
  have header : Unchanged (spelled ("header", Header.format.write paid.header))
      (spelled ("header", Header.format.write paid.header)) :=
    ⟨rfl, isTextEnd_written "header".toList, (@Header.readsBack 0 paid.header).isValue⟩
  refine .mk ?_ (isObject_writeObject _) (isObject_writeObject _)
  exact .skipLeft (idEntry_spelled isValue) (.skipRight (idEntry_spelled otherValue)
    (.same (.inr lists) (.same (.inl header) .nil)))

/-- The odd value is within the grammar all the same, so it can be passed over. -/
theorem isValue_oddId : IsValue oddId := by
  have number : IsNumber (Nat.toDigits 10 1 ++
      ('.' :: Nat.toDigits 10 5 ++ 'e' :: (['+'] ++ Nat.toDigits 10 999))) :=
    .mk (isWhole_toDigits 1) (.present (isWhole_toDigits 5).1)
      (.present (.inl rfl) (by decide) (isWhole_toDigits 999).1)
  refine .list (enclosed_writeList _) ?_
  simp only [List.forall_mem_cons]
  refine ⟨isValue_writeObject (List.forall_mem_singleton.mpr ?_), .scalar (.negative number),
    .scalar (.word (by decide)), nofun⟩
  exact .scalar (.text (.unit (.code (by decide) (by decide) (by decide) (by decide)) .close))

/-- The odd value stands where an id should be, in a transaction and twice in a block, and nothing
else is read from it than from null. -/
theorem ids_are_never_read_oddId :
    Transaction.format.ofText (String.ofList (payingText oddId)) = .ok paying ∧
      Block.format.ofText (String.ofList ([' '] ++ paidText oddId ++ ['\n'])) = .ok paid ∧
      (∀ tx, Transaction.format.ofText (String.ofList (payingText oddId)) = .ok tx ↔
        Transaction.format.ofText (String.ofList (payingText "null".toList)) = .ok tx) ∧
      ∀ block, Block.format.ofText (String.ofList (paidText oddId)) = .ok block ↔
        Block.format.ofText (String.ofList (paidText "null".toList)) = .ok block := by
  have isNull : IsValue "null".toList := .scalar (.word (by decide))
  have itself (text : List Char) : Padded text (String.ofList text) := by
    have padded := @Padded.mk text [] [] isBlanks_nil isBlanks_nil
    rwa [List.append_nil, List.nil_append] at padded
  have padded : Padded (paidText oddId) (String.ofList ([' '] ++ paidText oddId ++ ['\n'])) :=
    .mk (List.forall_mem_singleton.mpr rfl) (List.forall_mem_singleton.mpr rfl)
  obtain ⟨transactions, blocks, transactionsDiffer, blocksDiffer⟩ := ids_are_never_read
  exact ⟨(transactions _ _ _ (forged_paying isValue_oddId) (itself _)).1,
    (blocks _ _ _ (forged_paid isValue_oddId) padded).1,
    transactionsDiffer _ _ _ _ (differ_paying isValue_oddId isNull) (itself _) (itself _),
    blocksDiffer _ _ _ _ (differ_paid isValue_oddId isNull) (itself _) (itself _)⟩

end PocketLedger
