import PocketLedger.Proofs.Json.Records

/-!
# Texts that a format takes alike

Two texts are alike for a format if it makes the same of both, wherever they stand. A steady
format takes every value alike with itself: what it makes of a value does not depend on what
stands around it. Lists of items that are alike are alike, and so are objects whose entries are,
except for entries that are passed over: those can be anything.
-/

namespace PocketLedger.Json

open Text (Glyph glyphs)

namespace Format

variable {α : Type}

/-- Two texts of which a format makes the same. -/
def Alike (format : Format α) (left right : List Char) : Prop :=
  ∀ room, ∃ outcome, Finds (format.read room) left outcome ∧ Finds (format.read room) right outcome

/-- A format that makes something of every value, whatever stands around it. -/
class Steady (format : Format α) : Prop where
  alike {text : List Char} (isValue : IsValue text) : format.Alike text text

theorem steady_of_finds {format : Format α}
    (finds : ∀ ⦃text⦄, IsValue text → ∀ room, ∃ outcome, Finds (format.read room) text outcome) :
    format.Steady where
  alike isValue room := by
    obtain ⟨outcome, found⟩ := finds isValue room
    exact ⟨outcome, found, found⟩

/-! ## Scalars -/

instance (write : α → List Char) (accept : Value → Option α) : (ofScalar write accept).Steady := by
  refine steady_of_finds fun text isValue room => ?_
  have idles := idles_ofScalar write accept room
  cases isValue with
  | scalar isScalar =>
    obtain ⟨outcome, settles⟩ := exists_settles_scalar isScalar
    exact ⟨_, finds_ofScalar settles isScalar.starts write accept room⟩
  | list enclosed =>
    obtain ⟨others, rfl⟩ := enclosed.starts
    have refused : Settles ((ofScalar write accept).read room) ('[' :: others) none :=
      fun rest _ => ⟨.mistyped, rfl⟩
    exact ⟨none, refused.finds idles⟩
  | object isObject =>
    obtain ⟨texts, _, enclosed⟩ := isObject
    obtain ⟨others, rfl⟩ := enclosed.starts
    have refused : Settles ((ofScalar write accept).read room) ('{' :: others) none :=
      fun rest _ => ⟨.mistyped, rfl⟩
    exact ⟨none, refused.finds idles⟩

instance : Format.text.Steady := inferInstanceAs (ofScalar _ _).Steady
instance : uint8.Steady := inferInstanceAs (ofScalar _ _).Steady
instance : uint32.Steady := inferInstanceAs (ofScalar _ _).Steady
instance : uint64.Steady := inferInstanceAs (ofScalar _ _).Steady
instance : digest.Steady := inferInstanceAs (ofScalar _ _).Steady

/-! ## Lists -/

/-- Texts that are alike have common outcomes. -/
theorem exists_outcomes {item : Format α} {lefts rights : List (List Char)}
    (alike : List.Forall₂ item.Alike lefts rights) (room : Nat) :
    ∃ outcomes, List.Forall₂ (Finds (item.read room)) lefts outcomes ∧
      List.Forall₂ (Finds (item.read room)) rights outcomes := by
  induction alike with
  | nil => exact ⟨[], .nil, .nil⟩
  | cons first _ ih =>
    obtain ⟨outcome, left, right⟩ := first room
    obtain ⟨outcomes, lefts, rights⟩ := ih
    exact ⟨outcome :: outcomes, .cons left lefts, .cons right rights⟩

/-- Without room there are no lists. -/
theorem finds_list_none (item : Format α) (inner : List Char) :
    Finds ((list item).read 0) ('[' :: inner) none := by
  have refused : Settles ((list item).read 0) ('[' :: inner) none := fun rest _ => ⟨.malformed, rfl⟩
  exact refused.finds (idles_list item 0)

/-- Lists with items that are alike are alike. -/
theorem alike_list {item : Format α} {lefts rights : List (List Char)} {left right : List Char}
    (isLeft : Enclosed '[' ']' lefts left) (isRight : Enclosed '[' ']' rights right)
    (leftOpens : ∀ text ∈ lefts, Opens text) (rightOpens : ∀ text ∈ rights, Opens text)
    (alike : List.Forall₂ item.Alike lefts rights) : (list item).Alike left right := by
  intro room
  cases room with
  | zero =>
    obtain ⟨leftInner, rfl⟩ := isLeft.starts
    obtain ⟨rightInner, rfl⟩ := isRight.starts
    exact ⟨none, finds_list_none item leftInner, finds_list_none item rightInner⟩
  | succ room =>
    obtain ⟨outcomes, foundLefts, foundRights⟩ := exists_outcomes alike room
    exact ⟨gather outcomes, finds_list isLeft foundLefts leftOpens,
      finds_list isRight foundRights rightOpens⟩

/-- What is no list is refused. -/
theorem finds_list_other (item : Format α) (room : Nat) {first : Char} {others : List Char}
    (solid : isBlank first = false) (notList : first ≠ '[') :
    Finds ((list item).read room) (first :: others) none := by
  have refused : Settles ((list item).read room) (first :: others) none := by
    intro rest _
    refine ⟨refusal (glyphs (first :: others) ++ rest), ?_⟩
    rw [Text.glyphs_cons, List.cons_append]
    simp only [list, skipBlanks_solid solid]
    split
    next same => exact absurd (Text.char_inj same) notList
    next => rfl
  exact refused.finds (idles_list item room)

instance (item : Format α) [item.Steady] : (list item).Steady where
  alike {text} isValue := by
    cases isValue with
    | scalar isScalar =>
      obtain ⟨first, others, rfl, opens⟩ := isScalar.starts
      have refused (room : Nat) : Finds ((list item).read room) (first :: others) none :=
        finds_list_other item room (solid_of_opensScalar opens) (ne_of_opensScalar opens rfl)
      exact fun room => ⟨none, refused room, refused room⟩
    | list enclosed values =>
      have opens := fun text mem => (values text mem).opens
      exact alike_list enclosed enclosed opens opens
        (List.forall₂_same.mpr fun text mem => Steady.alike (values text mem))
    | object isObject =>
      obtain ⟨texts, _, enclosed⟩ := isObject
      obtain ⟨others, rfl⟩ := enclosed.starts
      have refused (room : Nat) : Finds ((list item).read room) ('{' :: others) none :=
        finds_list_other item room rfl (by decide)
      exact fun room => ⟨none, refused room, refused room⟩

instance : bytes.Steady := inferInstanceAs (list uint8).Steady

end Format

/-! ## Objects -/

/-- Entries that correspond to each other, but for some that are skipped on either side. -/
inductive SameBut {ε : Type} (Skipped : ε → Prop) (Same : ε → ε → Prop) : List ε → List ε → Prop
  | nil : SameBut Skipped Same [] []
  | same {left right : ε} {lefts rights : List ε} (same : Same left right)
      (others : SameBut Skipped Same lefts rights) :
      SameBut Skipped Same (left :: lefts) (right :: rights)
  | skipLeft {left : ε} {lefts rights : List ε} (skipped : Skipped left)
      (others : SameBut Skipped Same lefts rights) : SameBut Skipped Same (left :: lefts) rights
  | skipRight {right : ε} {lefts rights : List ε} (skipped : Skipped right)
      (others : SameBut Skipped Same lefts rights) : SameBut Skipped Same lefts (right :: rights)

theorem SameBut.of_forall {ε : Type} {Skipped : ε → Prop} {Same : ε → ε → Prop} {entries : List ε}
    (same : ∀ entry ∈ entries, Same entry entry) : SameBut Skipped Same entries entries := by
  induction entries with
  | nil => exact .nil
  | cons entry entries ih =>
    exact .same (same entry List.mem_cons_self)
      (ih fun entry mem => same entry (List.mem_cons_of_mem _ mem))

theorem SameBut.imp {ε : Type} {Skipped Skipped' : ε → Prop} {Same Same' : ε → ε → Prop}
    {lefts rights : List ε} (sameBut : SameBut Skipped Same lefts rights)
    (skips : ∀ entry, Skipped entry → Skipped' entry)
    (sames : ∀ left right, Same left right → Same' left right) :
    SameBut Skipped' Same' lefts rights := by
  induction sameBut with
  | nil => exact .nil
  | same same _ ih => exact .same (sames _ _ same) ih
  | skipLeft skipped _ ih => exact .skipLeft (skips _ skipped) ih
  | skipRight skipped _ ih => exact .skipRight (skips _ skipped) ih

/-- A key that is read as a name. -/
def Names (key : List Char) (name : String) : Prop := Settles Json.text key (some name.toList)

namespace Fields

variable {τs : List Type}

/-- Two texts of which the field with the given name makes the same; without such a field, two
values. -/
inductive Alike : {τs : List Type} → Fields τs → String → List Char → List Char → Prop
  | unknown {key : String} {left right : List Char} (leftValue : IsValue left)
      (rightValue : IsValue right) : Alike .nil key left right
  | here {τ : Type} {τs : List Type} {name : String} {format : Format τ} {missing : Option τ}
      {rest : Fields τs} {left right : List Char} (alike : format.Alike left right) :
      Alike (.cons name format missing rest) name left right
  | there {τ : Type} {τs : List Type} {name key : String} {format : Format τ}
      {missing : Option τ} {rest : Fields τs} {left right : List Char} (other : key ≠ name)
      (alike : Alike rest key left right) : Alike (.cons name format missing rest) key left right

/-- Filling a slot from texts that are alike does the same, or fails for both. -/
theorem Alike.settles {fields : Fields τs} {key : String} {left right : List Char}
    (alike : fields.Alike key left right) (room : Nat) (slots : Slots τs) :
    ∃ outcome, ∀ ⦃before after⦄, IsBlanks before → IsBlanks after →
      Settles (fields.fill room slots key) (before ++ ':' :: (after ++ left)) outcome ∧
        Settles (fields.fill room slots key) (before ++ ':' :: (after ++ right)) outcome := by
  induction alike with
  | unknown leftValue rightValue =>
    exact ⟨some slots, fun before after beforeBlank afterBlank =>
      ⟨settles_unknown slots leftValue beforeBlank afterBlank,
        settles_unknown slots rightValue beforeBlank afterBlank⟩⟩
  | @here _ _ name format missing rest left right alike =>
    obtain ⟨slot, slots⟩ := slots
    cases slot with
    | some value =>
      -- The field has been given before.
      refine ⟨none, fun before after _ _ => ⟨fun rest _ => ⟨.mistyped, ?_⟩,
        fun rest _ => ⟨.mistyped, ?_⟩⟩⟩
      · exact if_pos rfl
      · exact if_pos rfl
    | none =>
      obtain ⟨outcome, foundLeft, foundRight⟩ := alike room
      refine ⟨outcome.map fun value => (some value, slots),
        fun before after beforeBlank afterBlank => ⟨?_, ?_⟩⟩
      · exact ((settles_entryValue foundLeft beforeBlank afterBlank).mapValue _).congr
          fun rest => if_pos rfl
      · exact ((settles_entryValue foundRight beforeBlank afterBlank).mapValue _).congr
          fun rest => if_pos rfl
  | @there _ _ name key format missing rest left right other alike ih =>
    obtain ⟨slot, slots⟩ := slots
    obtain ⟨outcome, both⟩ := ih slots
    refine ⟨outcome.map fun slots => (slot, slots), fun before after beforeBlank afterBlank => ?_⟩
    obtain ⟨settlesLeft, settlesRight⟩ := both beforeBlank afterBlank
    exact ⟨(settlesLeft.mapValue _).congr fun rest => fill_other other slot slots _,
      (settlesRight.mapValue _).congr fun rest => fill_other other slot slots _⟩

/-- An entry that is passed over. -/
def Ignores (fields : Fields τs) (entry : List Char × List Char) : Prop :=
  ∃ name, Names entry.1 name ∧ name ∉ fields.names ∧ IsValue entry.2

/-- Entries with one key, and values that are alike for the field it names. -/
def EntryAlike (fields : Fields τs) (left right : List Char × List Char) : Prop :=
  left.1 = right.1 ∧ ∃ key, Settles Json.text left.1 key ∧
    ∀ name, key = some name → fields.Alike (String.ofList name) left.2 right.2

theorem Ignores.reads {fields : Fields τs} {entry : List Char × List Char}
    (ignores : fields.Ignores entry) (room : Nat) (slots : Slots τs) :
    EntryReads (fields.fill room) slots entry (some slots) := by
  obtain ⟨name, named, unknown, isValue⟩ := ignores
  refine .goodKey named fun before after beforeBlank afterBlank => ?_
  rw [String.ofList_toList]
  exact settles_fill_unknown unknown isValue slots beforeBlank afterBlank

theorem EntryAlike.reads {fields : Fields τs} {left right : List Char × List Char}
    (alike : fields.EntryAlike left right) (room : Nat) (slots : Slots τs) :
    ∃ outcome, EntryReads (fields.fill room) slots left outcome ∧
      EntryReads (fields.fill room) slots right outcome := by
  obtain ⟨leftKey, leftValue⟩ := left
  obtain ⟨rightKey, rightValue⟩ := right
  obtain ⟨rfl, key, settles, alike⟩ := alike
  cases key with
  | none => exact ⟨none, .badKey settles, .badKey settles⟩
  | some name =>
    obtain ⟨outcome, both⟩ := (alike name rfl).settles room slots
    exact ⟨outcome, .goodKey settles fun before after beforeBlank afterBlank =>
      (both beforeBlank afterBlank).1, .goodKey settles fun before after beforeBlank afterBlank =>
      (both beforeBlank afterBlank).2⟩

/-- Entries that are the same but for ignored ones fill the slots alike. -/
theorem exists_entriesRead {fields : Fields τs} {lefts rights : List (List Char × List Char)}
    (sameBut : SameBut fields.Ignores fields.EntryAlike lefts rights) (room : Nat)
    (slots : Slots τs) :
    ∃ outcome, EntriesRead (fields.fill room) slots lefts outcome ∧
      EntriesRead (fields.fill room) slots rights outcome := by
  induction sameBut generalizing slots with
  | nil => exact ⟨some slots, .nil, .nil⟩
  | same alike _ ih =>
    obtain ⟨next, left, right⟩ := alike.reads room slots
    cases next with
    | none => exact ⟨none, .fault left, .fault right⟩
    | some next =>
      obtain ⟨outcome, lefts, rights⟩ := ih next
      exact ⟨outcome, .cons left lefts, .cons right rights⟩
  | skipLeft ignored _ ih =>
    obtain ⟨outcome, lefts, rights⟩ := ih slots
    exact ⟨outcome, .cons (ignored.reads room slots) lefts, rights⟩
  | skipRight ignored _ ih =>
    obtain ⟨outcome, lefts, rights⟩ := ih slots
    exact ⟨outcome, lefts, .cons (ignored.reads room slots) rights⟩

/-- Without room there are no records. -/
theorem finds_read_none (fields : Fields τs) {first : Char} (opens : first = '[' ∨ first = '{')
    (inner : List Char) : Finds (fields.read 0) (first :: inner) none := by
  have refused : Settles (fields.read 0) (first :: inner) none := by
    rcases opens with rfl | rfl
    · exact fun rest _ => ⟨.malformed, rfl⟩
    · exact fun rest _ => ⟨.malformed, rfl⟩
  exact refused.finds (fields.idles_read 0)

/-- Objects whose entries are the same but for ignored ones are read alike. -/
theorem exists_finds_object {fields : Fields τs} {lefts rights : List (List Char × List Char)}
    (sameBut : SameBut fields.Ignores fields.EntryAlike lefts rights) {left right : List Char}
    (isLeft : IsObject lefts left) (isRight : IsObject rights right) (room : Nat) :
    ∃ outcome, Finds (fields.read room) left outcome ∧ Finds (fields.read room) right outcome := by
  cases room with
  | zero =>
    obtain ⟨_, _, leftEnclosed⟩ := isLeft
    obtain ⟨_, _, rightEnclosed⟩ := isRight
    obtain ⟨leftInner, rfl⟩ := leftEnclosed.starts
    obtain ⟨rightInner, rfl⟩ := rightEnclosed.starts
    exact ⟨none, fields.finds_read_none (.inr rfl) leftInner,
      fields.finds_read_none (.inr rfl) rightInner⟩
  | succ room =>
    obtain ⟨outcome, leftReads, rightReads⟩ := exists_entriesRead sameBut room (Slots.empty τs)
    exact ⟨_, finds_read leftReads isLeft, finds_read rightReads isRight⟩

/-! ## Records in general -/

/-- Fields whose formats are all steady. -/
class inductive Steady : {τs : List Type} → Fields τs → Prop
  | nil : Steady .nil
  | cons {τ : Type} {τs : List Type} {name : String} {format : Format τ} {missing : Option τ}
      {rest : Fields τs} (first : format.Steady) (others : Steady rest) :
      Steady (.cons name format missing rest)

instance : Steady .nil := .nil

instance {τ : Type} {name : String} {format : Format τ} {missing : Option τ} {rest : Fields τs}
    [first : format.Steady] [others : rest.Steady] : Steady (.cons name format missing rest) :=
  .cons first others

theorem Steady.alike {fields : Fields τs} (steady : fields.Steady) (key : String)
    {text : List Char} (isValue : IsValue text) : fields.Alike key text text := by
  induction steady with
  | nil => exact .unknown isValue isValue
  | @cons _ _ name _ _ _ first others ih =>
    by_cases same : key = name
    · subst same
      exact .here (first.alike isValue)
    · exact .there same ih

theorem closeList_mapValue {α β : Type} (f : α → β) (row : α) (rest : List Glyph) :
    closeList (f row) rest = (closeList row rest).mapValue f := by
  simp only [closeList]
  split <;> rfl

/-- One value of a list of fields, and then the others up to the closing bracket. -/
theorem settles_orderedValue {τ : Type} {format : Format τ} {rest : Fields τs} {room : Nat}
    {item : List Char} {outcome : Option τ} (found : Finds (format.read room) item outcome)
    {text : List Char} {further : Option (Row τs)}
    (settles : Settles (fun glyphs => (rest.inOrder room false glyphs).andThen closeList) text
      further) (ends : ∀ rest, EndsNumber rest → EndsNumber (glyphs text ++ rest))
    {before : List Char} (blanks : IsBlanks before) :
    Settles (fun glyphs => ((format.read room glyphs).andThen fun value glyphs =>
      (rest.inOrder room false glyphs).mapValue fun row => (value, row)).andThen closeList)
      (before ++ item ++ text) (outcome.bind fun value => further.map fun row => (value, row)) := by
  refine ((found blanks).andThen (fun value _ => settles.mapValue fun row => (value, row))
    ends).congr fun glyphs => ?_
  cases format.read room _ with
  | error => rfl
  | ok read =>
    simp only [Scanned.andThen]
    cases rest.inOrder room false read.2 with
    | error => rfl
    | ok row => exact closeList_mapValue _ _ _

/-- The values of the fields in order, behind others and up to the closing bracket. -/
theorem exists_settles_inOrder {fields : Fields τs} (steady : fields.Steady) (room : Nat)
    {texts : List (List Char)} {text : List Char} (continued : Continued ']' texts text)
    (values : ∀ item ∈ texts, IsValue item) :
    ∃ outcome, Settles (fun glyphs => (fields.inOrder room false glyphs).andThen closeList) text
      outcome := by
  induction steady generalizing texts text with
  | nil =>
    cases continued with
    | done isBlanks =>
      refine ⟨some (), fun rest _ => ?_⟩
      simp only [inOrder, Scanned.andThen, closeList, skipBlanks_before isBlanks (c := ']') rfl]
      rfl
    | next beforeBlank =>
      refine ⟨none, fun rest _ => ⟨.malformed, ?_⟩⟩
      simp only [inOrder, Scanned.andThen, closeList, skipBlanks_before beforeBlank (c := ',') rfl]
      rfl
  | @cons _ _ name format missing rest first others ih =>
    cases continued with
    | done isBlanks =>
      refine ⟨none, fun rest _ => ⟨.mistyped, ?_⟩⟩
      simp only [inOrder, Scanned.andThen, skipBlanks_before isBlanks (c := ']') rfl]
    | @next before after item text texts beforeBlank afterBlank continued =>
      obtain ⟨further, settles⟩ :=
        ih continued fun item mem => values item (List.mem_cons_of_mem _ mem)
      obtain ⟨outcome, found, _⟩ := first.alike (values item List.mem_cons_self) room
      have later := settles_orderedValue found settles (fun rest _ => continued.endsNumber rfl rest)
        afterBlank
      rw [List.append_assoc] at later
      refine ⟨_, later.behindMark before ',' fun rest => ?_⟩
      rw [inOrder, skipBlanks_append beforeBlank]
      rfl

/-- The first value of a list is read like a later one behind its comma. -/
theorem inOrder_first {τ : Type} {name : String} {format : Format τ} {missing : Option τ}
    {rest : Fields τs} {room : Nat} {text : List Char} (opens : Opens text) {before : List Char}
    (blanks : IsBlanks before) (others : List Glyph) :
    (Fields.cons name format missing rest).inOrder room true
        (glyphs before ++ (glyphs text ++ others)) =
      (format.read room (glyphs before ++ (glyphs text ++ others))).andThen fun value glyphs =>
        (rest.inOrder room false glyphs).mapValue fun row => (value, row) := by
  obtain ⟨first, more, opensFirst, _, kept⟩ := opens.skipBlanks blanks others
  simp only [inOrder, kept]
  split
  next same => cases same
  next same => exact absurd (Text.char_inj same) (of_opensItem opensFirst).2.1
  next => rfl
  next => rfl

/-- A list that goes on is not closed. -/
theorem closeList_opens {α : Type} (row : α) {text : List Char} (opens : Opens text)
    {before : List Char} (blanks : IsBlanks before) (others : List Glyph) :
    closeList row (glyphs before ++ (glyphs text ++ others)) = .error .malformed := by
  obtain ⟨first, more, opensFirst, _, kept⟩ := opens.skipBlanks blanks others
  simp only [closeList, kept]
  split
  next same => cases same
  next same => exact absurd (Text.char_inj same) (of_opensItem opensFirst).2.1
  next => rfl

/-- The values of the fields in order, from the opening bracket on. -/
theorem exists_settles_list {fields : Fields τs} (steady : fields.Steady) (room : Nat)
    {texts : List (List Char)} {inner : List Char}
    (enclosed : Enclosed '[' ']' texts ('[' :: inner)) (values : ∀ item ∈ texts, IsValue item) :
    ∃ outcome, Settles (fun glyphs => (fields.inOrder room true glyphs).andThen closeList) inner
      outcome := by
  cases steady with
  | nil =>
    cases enclosed with
    | empty isBlanks =>
      refine ⟨some (), fun rest _ => ?_⟩
      simp only [inOrder, Scanned.andThen, closeList, skipBlanks_before isBlanks (c := ']') rfl]
      rfl
    | @items before item text _ beforeBlank continued =>
      refine ⟨none, fun rest _ => ⟨.malformed, ?_⟩⟩
      rw [Text.glyphs_append, Text.glyphs_append, List.append_assoc, List.append_assoc]
      exact closeList_opens () (values item List.mem_cons_self).opens beforeBlank _
  | @cons _ _ name format missing rest first others =>
    cases enclosed with
    | empty isBlanks =>
      refine ⟨none, fun rest _ => ⟨.mistyped, ?_⟩⟩
      simp only [inOrder, Scanned.andThen, skipBlanks_before isBlanks (c := ']') rfl]
    | @items before item text texts beforeBlank continued =>
      have isItem := values item List.mem_cons_self
      obtain ⟨further, settles⟩ := exists_settles_inOrder others room continued
        fun item mem => values item (List.mem_cons_of_mem _ mem)
      obtain ⟨outcome, found, _⟩ := first.alike isItem room
      have whole := settles_orderedValue found settles (fun rest _ => continued.endsNumber rfl rest)
        beforeBlank
      rw [List.append_assoc] at whole
      refine ⟨_, whole.congr fun rest => ?_⟩
      simp only [Text.glyphs_append, List.append_assoc, inOrder_first isItem.opens beforeBlank]
      rfl

/-- What is made of a list with the values of the fields in order. -/
theorem exists_finds_list {fields : Fields τs} (steady : fields.Steady) (room : Nat)
    {texts : List (List Char)} {text : List Char} (enclosed : Enclosed '[' ']' texts text)
    (values : ∀ item ∈ texts, IsValue item) :
    ∃ outcome, Finds (fields.read room) text outcome := by
  obtain ⟨inner, rfl⟩ := enclosed.starts
  cases room with
  | zero => exact ⟨none, fields.finds_read_none (.inl rfl) inner⟩
  | succ room =>
    obtain ⟨outcome, settles⟩ := exists_settles_list steady room enclosed values
    have read : Settles (fields.read (room + 1)) ('[' :: inner) outcome :=
      settles.behind ['['] fun rest => rfl
    exact ⟨outcome, read.finds (fields.idles_read _)⟩

/-- A scalar is no record. -/
theorem finds_read_scalar (fields : Fields τs) (room : Nat) {text : List Char}
    (isScalar : IsScalar text) : Finds (fields.read room) text none := by
  obtain ⟨first, others, rfl, opens⟩ := isScalar.starts
  have notList : first ≠ '[' := ne_of_opensScalar opens rfl
  have notObject : first ≠ '{' := ne_of_opensScalar opens rfl
  have refused : Settles (fields.read room) (first :: others) none := by
    intro rest _
    refine ⟨Format.refusal (glyphs (first :: others) ++ rest), ?_⟩
    rw [Text.glyphs_cons, List.cons_append]
    simp only [read, skipBlanks_solid (solid_of_opensScalar opens)]
    split
    next same => exact absurd (Text.char_inj same) notList
    next same => exact absurd (Text.char_inj same) notObject
    next => rfl
  exact refused.finds (fields.idles_read room)

/-- An entry is alike with itself. -/
theorem Steady.entryAlike {fields : Fields τs} (steady : fields.Steady)
    {entry : List Char × List Char} (isKey : IsTextEnd entry.1) (isValue : IsValue entry.2) :
    fields.EntryAlike entry entry := by
  obtain ⟨key, settles⟩ := exists_settles_text isKey
  exact ⟨rfl, key, settles, fun name _ => steady.alike _ isValue⟩

/-- What steady fields make of a value. -/
theorem Steady.exists_finds {fields : Fields τs} (steady : fields.Steady) {text : List Char}
    (isValue : IsValue text) (room : Nat) : ∃ outcome, Finds (fields.read room) text outcome := by
  cases isValue with
  | scalar isScalar => exact ⟨none, fields.finds_read_scalar room isScalar⟩
  | list enclosed values => exact exists_finds_list steady room enclosed values
  | @object entries _ isObject keys values =>
    have sameBut : SameBut fields.Ignores fields.EntryAlike entries entries :=
      .of_forall fun entry mem => steady.entryAlike (keys entry mem) (values entry mem)
    obtain ⟨outcome, found, _⟩ := exists_finds_object sameBut isObject isObject room
    exact ⟨outcome, found⟩

end Fields

/-! ## Formats of records -/

namespace Format

variable {α : Type} {τs : List Type} {format : Format α} {fields : Fields τs} {ofRow : Row τs → α}

/-- A format that reads rows of steady fields is steady. -/
theorem steady_of_fields (steady : fields.Steady)
    (reads : ∀ room glyphs, format.read room glyphs = (fields.read room glyphs).mapValue ofRow) :
    format.Steady := by
  refine steady_of_finds fun text isValue room => ?_
  obtain ⟨outcome, found⟩ := steady.exists_finds isValue room
  exact ⟨outcome.map ofRow, fun before blanks =>
    ((found blanks).mapValue ofRow).congr fun rest => reads room _⟩

/-- Objects whose entries are the same but for ignored ones are alike. -/
theorem alike_of_fields
    (reads : ∀ room glyphs, format.read room glyphs = (fields.read room glyphs).mapValue ofRow)
    {lefts rights : List (List Char × List Char)}
    (sameBut : SameBut fields.Ignores fields.EntryAlike lefts rights) {left right : List Char}
    (isLeft : IsObject lefts left) (isRight : IsObject rights right) : format.Alike left right := by
  intro room
  obtain ⟨outcome, foundLeft, foundRight⟩ :=
    Fields.exists_finds_object sameBut isLeft isRight room
  exact ⟨outcome.map ofRow,
    fun before blanks => ((foundLeft blanks).mapValue ofRow).congr fun rest => reads room _,
    fun before blanks => ((foundRight blanks).mapValue ofRow).congr fun rest => reads room _⟩

end Format
end PocketLedger.Json
