import PocketLedger.Proofs.Json.Formats

/-!
# Reading back values of any kind

A value is read back if its numbers are integers that fit 64 bits and the entries of its objects
stand in ascending order of their keys, each key once. The entries are then kept as they come:
every one goes behind those before it.
-/

namespace PocketLedger.Json

open Text (Glyph glyphs)

/-- A value of at most `depth` levels of lists and objects, whose numbers are 64-bit integers and
whose objects are in order. -/
inductive Value.Plain : (depth : Nat) → Value → Prop
  | null {depth : Nat} : Plain depth .null
  | bool {depth : Nat} {value : Bool} : Plain depth (.bool value)
  | integer {depth : Nat} {value : Int} (low : -(UInt64.size / 2 : Nat) ≤ value)
      (high : value < UInt64.size) : Plain depth (.number (.integer value))
  | text {depth : Nat} {value : String} : Plain depth (.text value)
  | list {depth : Nat} {items : List Value} (plain : ∀ item ∈ items, Plain depth item) :
      Plain (depth + 1) (.list items)
  | object {depth : Nat} {entries : List (String × Value)}
      (plain : ∀ entry ∈ entries, Plain depth entry.2)
      (ascending : (entries.map Prod.fst).Pairwise (· < ·)) : Plain (depth + 1) (.object entries)

theorem writeItems_eq (items : List Value) : writeItems items = items.map Value.write := by
  induction items with
  | nil => rw [writeItems, List.map_nil]
  | cons item items ih => rw [writeItems, ih, List.map_cons]

theorem writeEntries_eq (entries : List (String × Value)) :
    writeEntries entries = entries.map fun entry => (entry.1, entry.2.write) := by
  induction entries with
  | nil => rw [writeEntries, List.map_nil]
  | cons entry entries ih => rw [writeEntries, ih, List.map_cons]

/-! ## Scalars -/

/-- A scalar is read with any room. -/
theorem read_scalar {first : Char} (opens : opensScalar first = true) (room : Nat)
    (rest : List Glyph) : Value.read room (.char first :: rest) = scalar (.char first :: rest) := by
  have notList : first ≠ '[' := ne_of_opensScalar opens rfl
  have notObject : first ≠ '{' := ne_of_opensScalar opens rfl
  have solid := skipBlanks_solid (solid_of_opensScalar opens) rest
  cases room with
  | zero =>
    rw [Value.read, solid]
    split
    next same => exact absurd (Text.char_inj same) notList
    next same => exact absurd (Text.char_inj same) notObject
    next => rfl
  | succ room =>
    rw [Value.read, solid]
    split
    next same => exact absurd (Text.char_inj same) notList
    next same => exact absurd (Text.char_inj same) notObject
    next => rfl

/-- Blanks in front of a value are passed over. -/
theorem idles_value (room : Nat) : Idles (Value.read room) := by
  intro before blanks rest
  cases room with
  | zero => rw [Value.read, Value.read, skipBlanks_append blanks]
  | succ room => rw [Value.read, Value.read, skipBlanks_append blanks]

/-- A scalar that is read as itself is read back as a value. -/
theorem readsBack_scalar {depth : Nat} {value : Value}
    (settles : Settles scalar value.write (some value)) (isScalar : IsScalar value.write) :
    Format.value.ReadsBack depth value where
  isValue := .scalar isScalar
  finds room _ := by
    obtain ⟨first, others, same, opens⟩ := isScalar.starts
    have read : Settles (Value.read room) value.write (some value) := by
      refine settles.congr fun rest => ?_
      rw [same]
      exact read_scalar opens room _
    exact read.finds (idles_value room)

/-- An integer is read back. -/
theorem settles_scalar_writeInteger {value : Int} (low : -(UInt64.size / 2 : Nat) ≤ value)
    (high : value < UInt64.size) :
    Settles scalar (writeInteger value) (some (.number (.integer value))) := by
  cases value with
  | ofNat value =>
    exact settles_scalar_number (isNumber_toDigits value)
      (settles_number_toDigits (Int.ofNat_lt.mp high))
  | negSucc value =>
    exact settles_scalar_negative (settles_number_negative (Nat.succ_pos value) (by omega))

/-! ## Objects -/

/-- An entry whose key is above all others goes behind them. -/
theorem insertEntry_last {α : Type} {key : String} {entries : List (String × α)}
    (above : ∀ entry ∈ entries, entry.1 < key) (value : α) :
    insertEntry key value entries = entries ++ [(key, value)] := by
  induction entries with
  | nil => rfl
  | cons entry entries ih =>
    have less : entry.1 < key := above entry List.mem_cons_self
    rw [insertEntry, if_neg (String.lt_asymm less), if_neg (String.ne_of_lt less).symm,
      ih fun entry mem => above entry (List.mem_cons_of_mem _ mem)]
    rfl

/-- Entries in ascending order are kept as they come, behind those that were read before. -/
theorem entriesRead_insertEntry {room : Nat} {entries done : List (String × Value)}
    (found : ∀ entry ∈ entries, Finds (Value.read room) entry.2.write (some entry.2))
    (ascending : ((done ++ entries).map Prod.fst).Pairwise (· < ·)) :
    EntriesRead (fun found key rest => (entryValue (Value.read room) rest).mapValue fun value =>
      insertEntry key value found) done ((writeEntries entries).map spelled)
      (some (done ++ entries)) := by
  induction entries generalizing done with
  | nil =>
    rw [List.append_nil]
    exact .nil
  | cons entry entries ih =>
    have above : ∀ other ∈ done, other.1 < entry.1 := by
      intro other mem
      rw [List.map_append, List.pairwise_append] at ascending
      exact ascending.2.2 _ (List.mem_map_of_mem mem) _ List.mem_cons_self
    rw [List.append_cons] at ascending ⊢
    have later := ih (fun entry mem => found entry (List.mem_cons_of_mem _ mem)) ascending
    refine .cons (.goodKey (settles_text_written entry.1.toList) ?_) later
    intro before after beforeBlank afterBlank
    have value := settles_entryValue (found entry List.mem_cons_self) beforeBlank afterBlank
    have read := value.mapValue fun value => insertEntry entry.1 value done
    rw [Option.map_some, insertEntry_last above] at read
    rwa [String.ofList_toList]

/-! ## All values -/

section

variable {room : Nat} {text : List Char}

/-- A list of values is read if its items are. -/
theorem finds_value_list {texts : List (List Char)} (enclosed : Enclosed '[' ']' texts text)
    {outcomes : List (Option Value)}
    (found : List.Forall₂ (Finds (Value.read room)) texts outcomes)
    (opens : ∀ text ∈ texts, Opens text) :
    Finds (Value.read (room + 1)) text ((gather outcomes).map .list) := by
  obtain ⟨inner, rfl, settles⟩ := settles_items enclosed found opens
  have read : Settles (Value.read (room + 1)) ('[' :: inner) ((gather outcomes).map .list) :=
    (settles.mapValue Value.list).behind ['['] fun rest => by rw [Value.read]; rfl
  exact read.finds (idles_value _)

/-- An object of values is read as its entries tell, with a later value of a key in the place of an
earlier one. -/
theorem finds_value_object {entries : List (List Char × List Char)}
    (isObject : IsObject entries text) {outcome : Option (List (String × Value))}
    (reads : EntriesRead (fun found key rest =>
      (entryValue (Value.read room) rest).mapValue fun value => insertEntry key value found)
      [] entries outcome) :
    Finds (Value.read (room + 1)) text (outcome.map .object) := by
  obtain ⟨inner, rfl, settles⟩ := settles_entries isObject reads
  have read : Settles (Value.read (room + 1)) ('{' :: inner) (outcome.map .object) :=
    (settles.mapValue Value.object).behind ['{'] fun rest => by rw [Value.read]; rfl
  exact read.finds (idles_value _)

end

/-- A list is read back if its items are. -/
theorem readsBack_value_list {depth : Nat} {items : List Value}
    (each : ∀ item ∈ items, Format.value.ReadsBack depth item) :
    Format.value.ReadsBack (depth + 1) (.list items) := by
  have areValues : ∀ text ∈ writeItems items, IsValue text := by
    rw [writeItems_eq]
    exact List.forall_mem_map.mpr fun item mem => (each item mem).isValue
  refine ⟨.list (enclosed_writeList _) areValues, fun room enough => ?_⟩
  obtain ⟨room, rfl⟩ : ∃ less, room = less + 1 := ⟨room - 1, by omega⟩
  have found : List.Forall₂ (Finds (Value.read room)) (writeItems items) (items.map some) := by
    rw [writeItems_eq, List.forall₂_map_left_iff, List.forall₂_map_right_iff, List.forall₂_same]
    exact fun item mem => (each item mem).finds room (Nat.le_of_succ_le_succ enough)
  have finds := finds_value_list (enclosed_writeList _) found
    fun text mem => (areValues text mem).opens
  rwa [gather_map_some] at finds

/-- An object with its keys in ascending order is read back if its values are. -/
theorem readsBack_value_object {depth : Nat} {entries : List (String × Value)}
    (each : ∀ entry ∈ entries, Format.value.ReadsBack depth entry.2)
    (ascending : (entries.map Prod.fst).Pairwise (· < ·)) :
    Format.value.ReadsBack (depth + 1) (.object entries) := by
  have areValues : ∀ entry ∈ writeEntries entries, IsValue entry.2 := by
    rw [writeEntries_eq]
    exact List.forall_mem_map.mpr fun entry mem => (each entry mem).isValue
  refine ⟨isValue_writeObject areValues, fun room enough => ?_⟩
  obtain ⟨room, rfl⟩ : ∃ less, room = less + 1 := ⟨room - 1, by omega⟩
  have found : ∀ entry ∈ entries, Finds (Value.read room) entry.2.write (some entry.2) :=
    fun entry mem => (each entry mem).finds room (Nat.le_of_succ_le_succ enough)
  exact finds_value_object (isObject_writeObject _) (entriesRead_insertEntry found ascending)

/-- Every plain value is read back. -/
theorem Value.Plain.readsBack {depth : Nat} {value : Value} (plain : value.Plain depth) :
    Format.value.ReadsBack depth value := by
  induction plain with
  | null => exact readsBack_scalar settles_scalar_null (.word (by decide))
  | @bool _ value =>
    cases value with
    | false => exact readsBack_scalar settles_scalar_false (.word (by decide))
    | true => exact readsBack_scalar settles_scalar_true (.word (by decide))
  | @integer _ value low high =>
    refine readsBack_scalar (settles_scalar_writeInteger low high) ?_
    cases value with
    | ofNat value => exact .number (isNumber_toDigits value)
    | negSucc value => exact .negative (isNumber_toDigits (value + 1))
  | @text _ value =>
    exact readsBack_scalar (settles_scalar_writeText value) (isScalar_writeText value)
  | list _ ih => exact readsBack_value_list ih
  | object _ ascending ih => exact readsBack_value_object ih ascending

end PocketLedger.Json
