import PocketLedger.Proofs.Json.Formats

/-!
# Reading records

The entries of a record may come in any order, with unknown entries among them. What has been
read so far is then told by the names that have been seen: `Fields.holding` are the slots of
those fields. Once every name has been seen, the slots hold the whole row.
-/

namespace PocketLedger.Json

open Text (Glyph glyphs)

/-- What follows an unknown key is passed over. -/
theorem settles_unknown {σ : Type} (state : σ) {text before after : List Char}
    (isValue : IsValue text) (beforeBlank : IsBlanks before) (afterBlank : IsBlanks after) :
    Settles (fun glyphs =>
      match skipColon glyphs with
      | .error fault => .error fault
      | .ok rest => (skipValue rest).map fun rest => (state, rest))
      (before ++ ':' :: (after ++ text)) (some state) := by
  intro rest ends
  simp only [skipColon, skipBlanks_before beforeBlank (c := ':') rfl]
  rw [passes_skipValue isValue afterBlank rest ends]
  rfl

namespace Fields

variable {τs : List Type}

/-- The names of the fields. -/
def names : {τs : List Type} → Fields τs → List String
  | _, .nil => []
  | _, .cons name _ _ rest => name :: rest.names

theorem map_fst_entries (fields : Fields τs) (row : Row τs) :
    (fields.entries row).map Prod.fst = fields.names := by
  induction fields with
  | nil => rfl
  | cons name format missing rest ih => exact congrArg (name :: ·) (ih row.2)

/-- The slots with the values of the fields whose names have been seen. -/
def holding : {τs : List Type} → Fields τs → Row τs → List String → Slots τs
  | _, .nil, _, _ => ()
  | _, .cons name _ _ rest, (value, row), seen =>
    (if name ∈ seen then some value else none, rest.holding row seen)

theorem holding_nil (fields : Fields τs) (row : Row τs) :
    fields.holding row [] = Slots.empty τs := by
  induction fields with
  | nil => rfl
  | cons name format missing rest ih => exact congrArg (none, ·) (ih row.2)

/-- A name that is not that of the first field concerns the others only. -/
theorem holding_other {τ : Type} {name key : String} {format : Format τ} {missing : Option τ}
    {rest : Fields τs} (value : τ) (row : Row τs) (other : key ≠ name) (seen : List String) :
    (Fields.cons name format missing rest).holding (value, row) (key :: seen) =
      (if name ∈ seen then some value else none, rest.holding row (key :: seen)) := by
  have same : name ∈ key :: seen ↔ name ∈ seen :=
    ⟨fun mem => (List.mem_cons.mp mem).resolve_left (Ne.symm other), List.mem_cons_of_mem _⟩
  exact congrArg (·, rest.holding row (key :: seen)) (if_congr same rfl rfl)

/-- Names of other records do not matter. -/
theorem holding_cons (fields : Fields τs) (row : Row τs) {key : String} (seen : List String)
    (unknown : key ∉ fields.names) :
    fields.holding row (key :: seen) = fields.holding row seen := by
  induction fields with
  | nil => rfl
  | cons name format missing rest ih =>
    obtain ⟨value, row⟩ := row
    simp only [names, List.mem_cons, not_or] at unknown
    rw [holding_other _ _ unknown.1, ih row unknown.2]
    rfl

/-- Once all names have been seen, the row is complete. -/
theorem complete?_holding (fields : Fields τs) (row : Row τs) {seen : List String}
    (all : ∀ name ∈ fields.names, name ∈ seen) :
    fields.complete? (fields.holding row seen) = some row := by
  induction fields with
  | nil => rfl
  | cons name format missing rest ih =>
    obtain ⟨value, row⟩ := row
    have others := ih row fun other mem => all other (List.mem_cons_of_mem _ mem)
    simp only [holding, complete?, if_pos (all name List.mem_cons_self), Option.some_or, others]

/-- The text behind a key gives the value of the field with that name. -/
inductive Tells (room : Nat) : {τs : List Type} → Fields τs → Row τs → String → List Char → Prop
  | here {τ : Type} {τs : List Type} {name : String} {format : Format τ} {missing : Option τ}
      {rest : Fields τs} {value : τ} {row : Row τs} {text : List Char}
      (finds : Finds (format.read room) text (some value)) :
      Tells room (.cons name format missing rest) (value, row) name text
  | there {τ : Type} {τs : List Type} {name key : String} {format : Format τ}
      {missing : Option τ} {rest : Fields τs} {value : τ} {row : Row τs} {text : List Char}
      (other : key ≠ name) (tells : Tells room rest row key text) :
      Tells room (.cons name format missing rest) (value, row) key text

variable {room : Nat}

/-- An entry that does not name the first field concerns the others only. -/
theorem fill_other {τ : Type} {name key : String} {format : Format τ} {missing : Option τ}
    {rest : Fields τs} (other : key ≠ name) (slot : Option τ) (slots : Slots τs)
    (glyphs : List Glyph) :
    (Fields.cons name format missing rest).fill room (slot, slots) key glyphs =
      (rest.fill room slots key glyphs).mapValue fun slots => (slot, slots) :=
  if_neg other

/-- An entry that gives the value of a field fills its slot. -/
theorem settles_fill {fields : Fields τs} {row : Row τs} {key : String} {text : List Char}
    (tells : fields.Tells room row key text) (distinct : fields.names.Nodup) {seen : List String}
    (new : key ∉ seen) {before after : List Char} (beforeBlank : IsBlanks before)
    (afterBlank : IsBlanks after) :
    Settles (fields.fill room (fields.holding row seen) key) (before ++ ':' :: (after ++ text))
      (some (fields.holding row (key :: seen))) := by
  induction tells with
  | @here _ _ name format missing rest value row text finds =>
    have others := rest.holding_cons row seen (List.nodup_cons.mp distinct).1
    have read := (settles_entryValue finds beforeBlank afterBlank).mapValue fun value =>
      (some value, rest.holding row seen)
    simp only [holding, others, List.mem_cons_self, if_true, if_neg new]
    refine read.congr fun rest => ?_
    rw [fill, if_pos rfl]
    rfl
  | @there _ _ name key format missing rest value row text other tells ih =>
    have read := (ih (List.nodup_cons.mp distinct).2 new).mapValue fun slots =>
      ((if name ∈ seen then some value else none), slots)
    rw [holding_other value row other]
    exact read.congr fun glyphs => fill_other other _ _ _

/-- An unknown entry leaves all slots alone. -/
theorem settles_fill_unknown {fields : Fields τs} {key : String} (unknown : key ∉ fields.names)
    {text : List Char} (isValue : IsValue text) (slots : Slots τs) {before after : List Char}
    (beforeBlank : IsBlanks before) (afterBlank : IsBlanks after) :
    Settles (fields.fill room slots key) (before ++ ':' :: (after ++ text)) (some slots) := by
  induction fields with
  | nil => exact settles_unknown slots isValue beforeBlank afterBlank
  | cons name format missing rest ih =>
    simp only [names, List.mem_cons, not_or] at unknown
    obtain ⟨slot, slots⟩ := slots
    have read := (ih unknown.2 slots).mapValue fun slots => (slot, slots)
    exact read.congr fun glyphs => fill_other unknown.1 _ _ _

/-- An entry of a record: the value of a field, or something unknown. -/
def Admits (room : Nat) (fields : Fields τs) (row : Row τs) (entry : String × List Char) : Prop :=
  fields.Tells room row entry.1 entry.2 ∨ entry.1 ∉ fields.names ∧ IsValue entry.2

/-- One entry of a record. -/
theorem entryReads_fill {fields : Fields τs} {row : Row τs} (distinct : fields.names.Nodup)
    {entry : String × List Char} (admits : fields.Admits room row entry) {seen : List String}
    (new : entry.1 ∉ seen) :
    EntryReads (fields.fill room) (fields.holding row seen) (spelled entry)
      (some (fields.holding row (entry.1 :: seen))) := by
  refine .goodKey (settles_text_written entry.1.toList) ?_
  intro before after beforeBlank afterBlank
  rw [String.ofList_toList]
  rcases admits with tells | ⟨unknown, isValue⟩
  · exact settles_fill tells distinct new beforeBlank afterBlank
  · rw [fields.holding_cons row seen unknown]
    exact settles_fill_unknown unknown isValue _ beforeBlank afterBlank

/-- The entries of a record in any order, each once. -/
theorem entriesRead_fill {fields : Fields τs} {row : Row τs} (distinct : fields.names.Nodup)
    {entries : List (String × List Char)} (admits : ∀ entry ∈ entries, fields.Admits room row entry)
    {seen : List String} (once : (entries.map Prod.fst).Nodup)
    (new : ∀ entry ∈ entries, entry.1 ∉ seen) :
    ∃ all, EntriesRead (fields.fill room) (fields.holding row seen) (entries.map spelled)
        (some (fields.holding row all)) ∧
      ∀ name, name ∈ seen ∨ name ∈ entries.map Prod.fst → name ∈ all := by
  induction entries generalizing seen with
  | nil => exact ⟨seen, .nil, by simp⟩
  | cons first entries ih =>
    obtain ⟨fresh, once⟩ := List.nodup_cons.mp once
    have newLater : ∀ entry ∈ entries, entry.1 ∉ first.1 :: seen := by
      intro entry mem same
      rcases List.mem_cons.mp same with same | old
      · exact fresh (same ▸ List.mem_map_of_mem mem)
      · exact new entry (List.mem_cons_of_mem _ mem) old
    obtain ⟨all, reads, covered⟩ :=
      ih (fun entry mem => admits entry (List.mem_cons_of_mem _ mem)) once newLater
    have read := entryReads_fill distinct (admits first List.mem_cons_self)
      (new first List.mem_cons_self)
    refine ⟨all, .cons read reads, fun name known => covered name ?_⟩
    rw [List.map_cons, List.mem_cons] at known
    rw [List.mem_cons]
    tauto

theorem idles_read (fields : Fields τs) (room : Nat) : Idles (fields.read room) := by
  intro before blanks rest
  simp only [read, skipBlanks_append blanks]

/-- What is made of an object: its entries fill the slots, which have to be complete. -/
theorem finds_read {fields : Fields τs} {entries : List (List Char × List Char)}
    {outcome : Option (Slots τs)}
    (reads : EntriesRead (fields.fill room) (Slots.empty τs) entries outcome) {text : List Char}
    (isObject : IsObject entries text) :
    Finds (fields.read (room + 1)) text (outcome.bind fields.complete?) := by
  obtain ⟨inner, rfl, settles⟩ := settles_entries isObject reads
  have tested := settles.tested fields.complete? .mistyped
  refine Settles.finds (tested.behind ['{'] fun rest => ?_) (fields.idles_read _)
  change (Json.entries (fields.fill room) (Slots.empty τs) rest).andThen _ = _
  congr 1
  funext slots rest
  cases fields.complete? slots <;> rfl

/-- A row is read from an object with all of its fields, in any order and among unknown
entries. -/
theorem finds_object {fields : Fields τs} {row : Row τs} (distinct : fields.names.Nodup)
    {entries : List (String × List Char)} (admits : ∀ entry ∈ entries, fields.Admits room row entry)
    (once : (entries.map Prod.fst).Nodup)
    (covered : ∀ name ∈ fields.names, name ∈ entries.map Prod.fst) {text : List Char}
    (isObject : IsObject (entries.map spelled) text) :
    Finds (fields.read (room + 1)) text (some row) := by
  obtain ⟨all, reads, seen⟩ := entriesRead_fill distinct admits once (fun _ _ => List.not_mem_nil)
  rw [fields.holding_nil] at reads
  have complete := fields.complete?_holding row fun name mem => seen name (.inr (covered name mem))
  have finds := finds_read reads isObject
  rwa [Option.bind_some, complete] at finds

/-- All fields of a row are read back. -/
inductive ReadsBack (depth : Nat) : {τs : List Type} → Fields τs → Row τs → Prop
  | nil {row : Row []} : ReadsBack depth .nil row
  | cons {τ : Type} {τs : List Type} {name : String} {format : Format τ} {missing : Option τ}
      {rest : Fields τs} {value : τ} {row : Row τs} (first : format.ReadsBack depth value)
      (others : ReadsBack depth rest row) :
      ReadsBack depth (.cons name format missing rest) (value, row)

/-- The entries that are written for a row give the values of its fields. -/
theorem ReadsBack.tells {depth : Nat} {fields : Fields τs} {row : Row τs}
    (readsBack : fields.ReadsBack depth row) (distinct : fields.names.Nodup)
    (enough : depth ≤ room) :
    ∀ entry ∈ fields.entries row, fields.Tells room row entry.1 entry.2 := by
  induction readsBack with
  | nil => exact nofun
  | @cons _ _ name _ _ rest _ row first others ih =>
    obtain ⟨fresh, distinct⟩ := List.nodup_cons.mp distinct
    intro entry mem
    rcases List.mem_cons.mp mem with rfl | mem
    · exact .here (first.finds room enough)
    · refine .there ?_ (ih distinct entry mem)
      rintro same
      rw [← same, ← rest.map_fst_entries row] at fresh
      exact fresh (List.mem_map_of_mem mem)

theorem ReadsBack.isValue {depth : Nat} {fields : Fields τs} {row : Row τs}
    (readsBack : fields.ReadsBack depth row) : ∀ entry ∈ fields.entries row, IsValue entry.2 := by
  induction readsBack with
  | nil => exact nofun
  | cons first others ih => exact List.forall_mem_cons.mpr ⟨first.isValue, ih⟩

/-- A row is read back from its written entries with unknown ones among them, in any order. -/
theorem ReadsBack.finds {depth : Nat} {fields : Fields τs} {row : Row τs}
    (readsBack : fields.ReadsBack depth row) (distinct : fields.names.Nodup)
    (enough : depth ≤ room) (unknown : List (String × List Char))
    (passed : ∀ entry ∈ unknown, entry.1 ∉ fields.names ∧ IsValue entry.2)
    (once : (unknown.map Prod.fst).Nodup) {entries : List (String × List Char)}
    (shuffled : entries.Perm (fields.entries row ++ unknown)) {text : List Char}
    (isObject : IsObject (entries.map spelled) text) :
    Finds (fields.read (room + 1)) text (some row) := by
  have keys := shuffled.map Prod.fst
  rw [List.map_append, fields.map_fst_entries] at keys
  refine finds_object distinct ?_ ?_ ?_ isObject
  · intro entry mem
    rcases List.mem_append.mp (shuffled.mem_iff.mp mem) with known | mem
    · exact .inl (readsBack.tells distinct enough entry known)
    · exact .inr (passed entry mem)
  · refine keys.nodup_iff.mpr (List.nodup_append.mpr ⟨distinct, once, ?_⟩)
    rintro name known _ mem rfl
    obtain ⟨entry, isUnknown, rfl⟩ := List.mem_map.mp mem
    exact (passed entry isUnknown).1 known
  · exact fun name mem => keys.mem_iff.mpr (List.mem_append_left _ mem)

end Fields

/-- A record is read back if its fields are. -/
theorem Format.readsBack_record {α : Type} {τs : List Type} {fields : Fields τs}
    {toRow : α → Row τs} {ofRow : Row τs → α} {depth : Nat} {value : α}
    (readsBack : fields.ReadsBack depth (toRow value)) (distinct : fields.names.Nodup)
    (same : ofRow (toRow value) = value) :
    (Format.record fields toRow ofRow).ReadsBack (depth + 1) value where
  isValue := isValue_writeObject readsBack.isValue
  finds room enough := by
    obtain ⟨room, rfl⟩ : ∃ less, room = less + 1 := ⟨room - 1, by omega⟩
    have written := (fields.entries (toRow value)).append_nil
    have finds := readsBack.finds distinct (Nat.le_of_succ_le_succ enough) [] nofun
      List.nodup_nil (.of_eq written.symm) (isObject_writeObject _)
    intro before blanks
    have mapped := (finds blanks).mapValue ofRow
    rwa [Option.map_some, same] at mapped

end PocketLedger.Json
