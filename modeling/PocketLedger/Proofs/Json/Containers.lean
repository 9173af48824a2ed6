import PocketLedger.Proofs.Json.Grammar

/-!
# Reading lists and objects

What is made of a list is decided by what is made of its items, and what is made of an object by
what is made of its entries one after the other, with the state that the entries before have
left. The blanks between them do not matter. What is written is a layout without blanks.
-/

namespace PocketLedger.Json

open Text (Glyph glyphs)

/-- What a scan makes of a text, also behind blanks. -/
def Finds {α : Type} (scan : List Glyph → Scanned α) (text : List Char) (outcome : Option α) :
    Prop :=
  ∀ ⦃before⦄, IsBlanks before → Settles scan (before ++ text) outcome

/-! ## Lists -/

/-- All of the values, if none is missing. -/
def gather {α : Type} : List (Option α) → Option (List α)
  | [] => some []
  | none :: _ => none
  | some value :: outcomes => (gather outcomes).map (value :: ·)

/-- If there is something of each, it is gathered. -/
@[simp]
theorem gather_map_some {α : Type} (values : List α) : gather (values.map some) = some values := by
  induction values with
  | nil => rfl
  | cons value values ih => rw [List.map_cons, gather, ih]; rfl

section Lists

variable {α : Type} {item : List Glyph → Scanned α}

/-- The items of a list are read one after the other, up to the closing bracket. -/
theorem settles_itemsWith {items : List (List Char)} {text : List Char}
    (continued : Continued ']' items text) {first : List Char} {outcomes : List (Option α)}
    (finds : List.Forall₂ (Finds item) (first :: items) outcomes) {before : List Char}
    (blanks : IsBlanks before) {fuel : Nat} (enough : items.length < fuel) :
    Settles (itemsWith item fuel) (before ++ first ++ text) (gather outcomes) := by
  obtain ⟨fuel, rfl⟩ : ∃ less, fuel = less + 1 := ⟨fuel - 1, by omega⟩
  obtain ⟨outcome, outcomes, found, areOthers, rfl⟩ := List.forall₂_cons_left_iff.mp finds
  have ends : ∀ rest, EndsNumber rest → EndsNumber (glyphs text ++ rest) :=
    fun rest _ => continued.endsNumber rfl rest
  have same : gather (outcome :: outcomes) =
      outcome.bind fun value => (gather outcomes).map (value :: ·) := by
    cases outcome <;> rfl
  rw [same]
  refine (found blanks).andThen (fun value _ => ?_) ends
  cases continued with
  | @done after afterBlank =>
    obtain rfl := List.forall₂_nil_left_iff.mp areOthers
    intro rest _
    simp only [skipBlanks_before afterBlank (c := ']') rfl]
    rfl
  | @next between after second text items betweenBlank afterBlank others =>
    have later := settles_itemsWith others areOthers afterBlank (Nat.lt_of_succ_lt_succ enough)
    rw [List.append_assoc] at later
    refine (later.mapValue (value :: ·)).behindMark between ',' fun rest => ?_
    rw [skipBlanks_append betweenBlank]
    rfl

/-- What is made of a list is decided by what is made of its items. -/
theorem settles_items {texts : List (List Char)} {text : List Char}
    (enclosed : Enclosed '[' ']' texts text) {outcomes : List (Option α)}
    (finds : List.Forall₂ (Finds item) texts outcomes)
    (opens : ∀ text ∈ texts, Opens text) :
    ∃ inner, text = '[' :: inner ∧ Settles (items item) inner (gather outcomes) := by
  cases enclosed with
  | empty isBlanks =>
    obtain rfl := List.forall₂_nil_left_iff.mp finds
    refine ⟨_, rfl, fun rest _ => ?_⟩
    rw [items, skipBlanks_before isBlanks rfl]
    rfl
  | @items before first text others beforeBlank continued =>
    refine ⟨_, rfl, Settles.of_each fun rest => ?_⟩
    refine ⟨itemsWith item ((glyphs (first ++ text) ++ rest).length + 1), ?_, ?_⟩
    · refine settles_itemsWith continued finds isBlanks_nil ?_
      have := continued.length_pos
      simp only [List.length_append, Text.length_glyphs]
      omega
    · obtain ⟨c, more, opensFirst, starts, kept⟩ := (opens first List.mem_cons_self).skipBlanks
        beforeBlank (glyphs text ++ rest)
      rw [items, Text.glyphs_append, List.append_assoc, kept, starts]
      split
      next same => exact absurd (Text.char_inj same) (of_opensItem opensFirst).2.1
      next => rfl

end Lists

/-! ## Objects -/

section Entries

variable {σ : Type} {step : σ → String → List Glyph → Scanned σ}

/-- What a step makes of one entry: it is refused at the key, or the step settles what follows. -/
inductive EntryReads (step : σ → String → List Glyph → Scanned σ) (state : σ) :
    List Char × List Char → Option σ → Prop
  | badKey {key value : List Char} (refused : Settles Json.text key none) :
      EntryReads step state (key, value) none
  | goodKey {key name value : List Char} {outcome : Option σ}
      (named : Settles Json.text key (some name))
      (found : ∀ ⦃before after⦄, IsBlanks before → IsBlanks after →
        Settles (step state (String.ofList name)) (before ++ ':' :: (after ++ value)) outcome) :
      EntryReads step state (key, value) outcome

/-- What the steps make of the entries of an object, one after the other. -/
inductive EntriesRead (step : σ → String → List Glyph → Scanned σ) :
    σ → List (List Char × List Char) → Option σ → Prop
  | nil {state : σ} : EntriesRead step state [] (some state)
  | fault {state : σ} {entry : List Char × List Char} {entries : List (List Char × List Char)}
      (refused : EntryReads step state entry none) : EntriesRead step state (entry :: entries) none
  | cons {state next : σ} {entry : List Char × List Char} {entries : List (List Char × List Char)}
      {outcome : Option σ} (first : EntryReads step state entry (some next))
      (others : EntriesRead step next entries outcome) :
      EntriesRead step state (entry :: entries) outcome

/-- What follows a key is the value of the entry. -/
theorem settles_entryValue {α : Type} {read : List Glyph → Scanned α} {text : List Char}
    {outcome : Option α} (finds : Finds read text outcome) {before after : List Char}
    (beforeBlank : IsBlanks before) (afterBlank : IsBlanks after) :
    Settles (entryValue read) (before ++ ':' :: (after ++ text)) outcome := by
  refine (finds afterBlank).behindMark before ':' fun rest => ?_
  rw [entryValue, skipColon, skipBlanks_append beforeBlank]
  rfl

/-- The first entry decides whether, and with which state, the others are read. -/
theorem EntriesRead.split {state : σ} {first : List Char × List Char}
    {entries : List (List Char × List Char)} {outcome : Option σ}
    (reads : EntriesRead step state (first :: entries) outcome) :
    ∃ next further, EntryReads step state first next ∧
      (∀ state, next = some state → EntriesRead step state entries (further state)) ∧
      outcome = next.bind further := by
  cases reads with
  | fault refused => exact ⟨none, fun _ => none, refused, nofun, rfl⟩
  | @cons _ next _ _ _ first others =>
    refine ⟨some next, fun _ => outcome, first, ?_, rfl⟩
    intro state isNext
    rwa [← Option.some.inj isNext]

/-- What follows a key does not continue a number. -/
theorem endsNumber_colon {before : List Char} (blanks : IsBlanks before) (value tail : List Char)
    (rest : List Glyph) (_ : EndsNumber rest) :
    EndsNumber (glyphs ((before ++ ':' :: value) ++ tail) ++ rest) := by
  rw [List.append_assoc, Text.glyphs_append, List.append_assoc]
  exact endsNumber_blanks_append blanks rfl

/-- An entry behind its opening quote, with what follows it. -/
theorem settles_entry {state : σ} {entry : List Char × List Char} {inner : List Char}
    (isEntry : IsEntry entry ('"' :: inner)) {next : Option σ}
    (reads : EntryReads step state entry next) {after : σ → List Glyph → Scanned σ}
    {tail : List Char} {further : σ → Option σ}
    (goesOn : ∀ state, next = some state → Settles (after state) tail (further state))
    (ends : ∀ rest, EndsNumber rest → EndsNumber (glyphs tail ++ rest)) :
    Settles (fun glyphs => (Json.text glyphs).andThen fun key rest =>
      (step state (String.ofList key) rest).andThen after) (inner ++ tail) (next.bind further) := by
  obtain @⟨key, before, afterColon, value, beforeBlank, afterBlank⟩ := isEntry
  have endsKey := endsNumber_colon beforeBlank (afterColon ++ value) tail
  rw [List.append_assoc]
  cases reads with
  | badKey refused => exact refused.andThen_none _ endsKey
  | goodKey named found =>
    exact named.andThen_some ((found beforeBlank afterBlank).andThen goesOn ends) endsKey

/-- The entries of an object are read one after the other, up to the closing brace. -/
theorem settles_entriesWith {texts : List (List Char)} {text : List Char}
    (continued : Continued '}' texts text) {first : List Char × List Char}
    {entries : List (List Char × List Char)} {firstText before : List Char} {fuel : Nat}
    (blanks : IsBlanks before)
    (isEntries : List.Forall₂ IsEntry (first :: entries) (firstText :: texts)) {state : σ}
    {outcome : Option σ} (reads : EntriesRead step state (first :: entries) outcome)
    (enough : texts.length < fuel) :
    Settles (entriesWith step fuel state) (before ++ firstText ++ text) outcome := by
  obtain ⟨fuel, rfl⟩ : ∃ less, fuel = less + 1 := ⟨fuel - 1, by omega⟩
  obtain ⟨isEntry, areOthers⟩ := List.forall₂_cons.mp isEntries
  obtain ⟨inner, rfl⟩ := isEntry.starts
  obtain ⟨next, further, read, others, rfl⟩ := reads.split
  have ends : ∀ rest, EndsNumber rest → EndsNumber (glyphs text ++ rest) :=
    fun rest _ => continued.endsNumber rfl rest
  rw [List.append_assoc, List.cons_append]
  apply Settles.behindMark
  case goesOn =>
    intro rest
    rw [entriesWith, skipBlanks_append blanks]
  refine settles_entry isEntry read (fun state isNext => ?_) ends
  have remaining := others state isNext
  generalize further state = outcome at remaining ⊢
  cases continued with
  | @done after afterBlank =>
    obtain rfl := List.forall₂_nil_right_iff.mp areOthers
    cases remaining
    intro rest _
    simp only [skipBlanks_before afterBlank (c := '}') rfl]
    rfl
  | @next between after secondText text texts betweenBlank afterBlank continued =>
    obtain ⟨second, entries, _, _, rfl⟩ := List.forall₂_cons_right_iff.mp areOthers
    have later := settles_entriesWith continued afterBlank areOthers remaining
      (Nat.lt_of_succ_lt_succ enough)
    rw [List.append_assoc] at later
    refine later.behindMark between ',' fun rest => ?_
    rw [skipBlanks_append betweenBlank]
    rfl

/-- What is made of an object is decided by what is made of its entries, one after the other. -/
theorem settles_entries {entries : List (List Char × List Char)} {text : List Char}
    (isObject : IsObject entries text) {start : σ} {outcome : Option σ}
    (reads : EntriesRead step start entries outcome) :
    ∃ inner, text = '{' :: inner ∧ Settles (Json.entries step start) inner outcome := by
  obtain ⟨texts, isEntries, enclosed⟩ := isObject
  cases enclosed with
  | empty isBlanks =>
    obtain rfl := List.forall₂_nil_right_iff.mp isEntries
    cases reads
    refine ⟨_, rfl, fun rest _ => ?_⟩
    rw [Json.entries, skipBlanks_before isBlanks rfl]
    rfl
  | @items before firstText text texts beforeBlank continued =>
    obtain ⟨first, entries, isEntry, areOthers, rfl⟩ := List.forall₂_cons_right_iff.mp isEntries
    refine ⟨_, rfl, Settles.of_each fun rest => ?_⟩
    refine ⟨entriesWith step ((glyphs (firstText ++ text) ++ rest).length + 1) start, ?_, ?_⟩
    · refine settles_entriesWith continued isBlanks_nil isEntries reads ?_
      have := continued.length_pos
      simp only [List.length_append, Text.length_glyphs]
      omega
    · obtain ⟨inner, rfl⟩ := isEntry.starts
      rw [Json.entries, skipBlanks_append beforeBlank]
      rfl

end Entries

/-! ## What is written -/

/-- Items that are written behind commas are the continuation of the first. -/
theorem continued_commas (closing : Char) (items : List (List Char)) :
    ∃ text, Continued closing items text ∧
      ∀ first, commas (first :: items) ++ [closing] = first ++ text := by
  induction items with
  | nil => exact ⟨[closing], .done isBlanks_nil, fun first => rfl⟩
  | cons second items ih =>
    obtain ⟨text, continued, same⟩ := ih
    refine ⟨',' :: (second ++ text), .next isBlanks_nil isBlanks_nil continued, fun first => ?_⟩
    rw [commas, List.append_assoc, List.cons_append, same]

/-- Items between commas and marks, without blanks. -/
theorem enclosed_commas (opening closing : Char) (items : List (List Char)) :
    Enclosed opening closing items (opening :: (commas items ++ [closing])) := by
  cases items with
  | nil => exact .empty isBlanks_nil
  | cons first items =>
    obtain ⟨text, continued, same⟩ := continued_commas closing items
    rw [same first]
    exact .items isBlanks_nil continued

/-- A written list encloses its items. -/
theorem enclosed_writeList (items : List (List Char)) :
    Enclosed '[' ']' items (writeList items) :=
  enclosed_commas '[' ']' items

/-- An entry as it is written: the text of its key behind the opening quote, and its value. -/
def spelled (entry : String × List Char) : List Char × List Char :=
  (entry.1.toList.flatMap writeChar ++ ['"'], entry.2)

/-- A written entry is one, with its key spelled out. -/
theorem isEntry_writeEntry (entry : String × List Char) :
    IsEntry (spelled entry) (writeEntry entry) := by
  rw [writeEntry, writeText, List.cons_append]
  exact .mk isBlanks_nil isBlanks_nil

/-- A written object has its entries, in order. -/
theorem isObject_writeObject (entries : List (String × List Char)) :
    IsObject (entries.map spelled) (writeObject entries) := by
  refine ⟨entries.map writeEntry, ?_, enclosed_commas '{' '}' _⟩
  rw [List.forall₂_map_left_iff, List.forall₂_map_right_iff, List.forall₂_same]
  exact fun entry _ => isEntry_writeEntry entry

/-- An object with written keys is a value if the values of its entries are. -/
theorem isValue_spelled {entries : List (String × List Char)} {text : List Char}
    (isObject : IsObject (entries.map spelled) text)
    (values : ∀ entry ∈ entries, IsValue entry.2) : IsValue text := by
  refine .object isObject ?_ ?_
  · exact List.forall_mem_map.mpr fun entry _ => isTextEnd_written entry.1.toList
  · exact List.forall_mem_map.mpr values

/-- A written object of values is a value. -/
theorem isValue_writeObject {entries : List (String × List Char)}
    (values : ∀ entry ∈ entries, IsValue entry.2) : IsValue (writeObject entries) :=
  isValue_spelled (isObject_writeObject entries) values

end PocketLedger.Json
