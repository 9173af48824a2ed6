import PocketLedger.Proofs.Json.Numbers
import Mathlib.Data.List.Forall2

/-!
# The grammar of JSON

`IsValue` is the grammar of JSON values, with blanks wherever they may stand, numbers of any size
and lists and objects of any depth. Passing over a value gets to its end for everything that the
grammar allows. For reading, the layout of a list or an object is kept apart from the values in
it: `Enclosed` gives the texts between the brackets, and what is made of each of them decides what
is made of the whole.
-/

namespace PocketLedger.Json

open Text (Glyph glyphs)

/-! ## Scalars -/

/-- A value that is neither a list nor an object. -/
inductive IsScalar : List Char → Prop
  | word {text : List Char} (known : text ∈ ["null".toList, "true".toList, "false".toList]) :
      IsScalar text
  | number {text : List Char} (isNumber : IsNumber text) : IsScalar text
  | negative {text : List Char} (isNumber : IsNumber text) : IsScalar ('-' :: text)
  | text {text : List Char} (isTextEnd : IsTextEnd text) : IsScalar ('"' :: text)

/-- Whether a scalar can start with a character. -/
def opensScalar (c : Char) : Bool :=
  c.isDigit || c = '"' || c = 'n' || c = 't' || c = 'f' || c = '-'

/-- A number without a sign starts with a digit. -/
theorem IsNumber.starts {text : List Char} (isNumber : IsNumber text) :
    ∃ first others, text = first :: others ∧ first.isDigit = true := by
  obtain @⟨whole, fraction, exponent, ⟨⟨nonempty, isDigits⟩, _⟩, _, _⟩ := isNumber
  match whole, nonempty, isDigits with
  | first :: others, _, isDigits => exact ⟨first, _, rfl, isDigits first List.mem_cons_self⟩

/-- A scalar can be told from a list or an object by its first character. -/
theorem IsScalar.starts {text : List Char} (isScalar : IsScalar text) :
    ∃ first others, text = first :: others ∧ opensScalar first = true := by
  cases isScalar with
  | number isNumber =>
    obtain ⟨first, others, rfl, isDigit⟩ := isNumber.starts
    exact ⟨first, others, rfl, by simp [opensScalar, isDigit]⟩
  | word known =>
    simp only [List.mem_cons, List.not_mem_nil, or_false] at known
    rcases known with rfl | rfl | rfl <;> exact ⟨_, _, rfl, rfl⟩
  | negative => exact ⟨'-', _, rfl, rfl⟩
  | text => exact ⟨'"', _, rfl, rfl⟩

/-- What opens a scalar differs from every mark that does not. -/
theorem ne_of_opensScalar {c mark : Char} (opens : opensScalar c = true)
    (isMark : opensScalar mark = false) : c ≠ mark := by
  rintro rfl
  rw [opens] at isMark
  cases isMark

/-- What opens a scalar is no blank. -/
theorem solid_of_opensScalar {c : Char} (opens : opensScalar c = true) : isBlank c = false := by
  simp only [isBlank, Bool.or_eq_false_iff, decide_eq_false_iff_not]
  exact ⟨⟨⟨ne_of_opensScalar opens rfl, ne_of_opensScalar opens rfl⟩,
    ne_of_opensScalar opens rfl⟩, ne_of_opensScalar opens rfl⟩

/-- A digit opens a number, for both kinds of scan. -/
theorem scalar_of_isDigit {c : Char} (isDigit : c.isDigit = true) (rest : List Glyph) :
    scalar (.char c :: rest) = (number false (.char c :: rest)).mapValue .number ∧
      skipScalar (.char c :: rest) = skipNumber (.char c :: rest) := by
  have ne : ∀ mark : Char, mark.isDigit = false → c ≠ mark := by
    rintro mark isMark rfl
    rw [isDigit] at isMark
    cases isMark
  have found := digit?_of_isDigit isDigit
  constructor
  · simp [scalar, found, ne]
  · simp [skipScalar, found, ne]

/-- A scalar is passed over. -/
theorem passes_skipScalar {text : List Char} (isScalar : IsScalar text) :
    Passes skipScalar text := by
  intro rest ends
  cases isScalar with
  | word known =>
    simp only [List.mem_cons, List.not_mem_nil, or_false] at known
    rcases known with rfl | rfl | rfl
    · exact expect_append ['u', 'l', 'l'] rest
    · exact expect_append ['r', 'u', 'e'] rest
    · exact expect_append ['a', 'l', 's', 'e'] rest
  | number isNumber =>
    obtain ⟨first, others, rfl, isDigit⟩ := isNumber.starts
    rw [Text.glyphs_cons, List.cons_append, (scalar_of_isDigit isDigit _).2]
    exact passes_skipNumber isNumber rest ends
  | negative isNumber => exact passes_skipNumber isNumber rest ends
  | text isTextEnd => exact passes_skipText isTextEnd rest ends

/-- `null` is read as a scalar. -/
theorem settles_scalar_null : Settles scalar "null".toList (some .null) :=
  fun rest _ => congrArg (Except.map (Value.null, ·)) (expect_append ['u', 'l', 'l'] rest)

/-- `true` is read as a scalar. -/
theorem settles_scalar_true : Settles scalar "true".toList (some (.bool true)) :=
  fun rest _ => congrArg (Except.map (Value.bool true, ·)) (expect_append ['r', 'u', 'e'] rest)

/-- `false` is read as a scalar. -/
theorem settles_scalar_false : Settles scalar "false".toList (some (.bool false)) :=
  fun rest _ =>
    congrArg (Except.map (Value.bool false, ·)) (expect_append ['a', 'l', 's', 'e'] rest)

/-- A number is read as a scalar. -/
theorem settles_scalar_number {text : List Char} (isNumber : IsNumber text)
    {outcome : Option Number} (settles : Settles (number false) text outcome) :
    Settles scalar text (outcome.map .number) := by
  obtain ⟨first, others, rfl, isDigit⟩ := isNumber.starts
  exact (settles.mapValue Value.number).congr fun rest => (scalar_of_isDigit isDigit _).1

/-- A number with a sign is read as a scalar. -/
theorem settles_scalar_negative {text : List Char} {outcome : Option Number}
    (settles : Settles (number true) text outcome) :
    Settles scalar ('-' :: text) (outcome.map .number) :=
  (settles.mapValue Value.number).behind ['-'] fun _ => rfl

/-- A text is read as a scalar. -/
theorem settles_scalar_text {text : List Char} {outcome : Option (List Char)}
    (settles : Settles Json.text text outcome) :
    Settles scalar ('"' :: text) (outcome.map fun characters => .text (String.ofList characters)) :=
  (settles.mapValue fun characters => Value.text (String.ofList characters)).behind
    ['"'] fun _ => rfl

/-- A written text is a scalar. -/
theorem isScalar_writeText (value : String) : IsScalar (writeText value) :=
  .text (isTextEnd_written value.toList)

/-- A written text is read as the text. -/
theorem settles_scalar_writeText (value : String) :
    Settles scalar (writeText value) (some (.text value)) := by
  have settles := settles_scalar_text (settles_text_written value.toList)
  rwa [Option.map_some, String.ofList_toList] at settles

/-- A scalar is read, or always refused. -/
theorem exists_settles_scalar {text : List Char} (isScalar : IsScalar text) :
    ∃ outcome, Settles scalar text outcome := by
  cases isScalar with
  | word known =>
    simp only [List.mem_cons, List.not_mem_nil, or_false] at known
    rcases known with rfl | rfl | rfl
    · exact ⟨_, settles_scalar_null⟩
    · exact ⟨_, settles_scalar_true⟩
    · exact ⟨_, settles_scalar_false⟩
  | number isNumber =>
    obtain ⟨outcome, settles⟩ := exists_settles_number isNumber false
    exact ⟨_, settles_scalar_number isNumber settles⟩
  | negative isNumber =>
    obtain ⟨outcome, settles⟩ := exists_settles_number isNumber true
    exact ⟨_, settles_scalar_negative settles⟩
  | text isTextEnd =>
    obtain ⟨outcome, settles⟩ := exists_settles_text isTextEnd
    exact ⟨_, settles_scalar_text settles⟩

/-! ## Layout -/

/-- What follows an item of a list or an object, up to the closing mark: further items behind
commas, with blanks anywhere between. -/
inductive Continued (closing : Char) : List (List Char) → List Char → Prop
  | done {blanks : List Char} (isBlanks : IsBlanks blanks) :
      Continued closing [] (blanks ++ [closing])
  | next {before after item text : List Char} {items : List (List Char)}
      (beforeBlank : IsBlanks before) (afterBlank : IsBlanks after)
      (others : Continued closing items text) :
      Continued closing (item :: items) (before ++ ',' :: (after ++ (item ++ text)))

/-- Items between an opening and a closing mark. -/
inductive Enclosed (opening closing : Char) : List (List Char) → List Char → Prop
  | empty {blanks : List Char} (isBlanks : IsBlanks blanks) :
      Enclosed opening closing [] (opening :: (blanks ++ [closing]))
  | items {before item text : List Char} {items : List (List Char)}
      (beforeBlank : IsBlanks before) (others : Continued closing items text) :
      Enclosed opening closing (item :: items) (opening :: (before ++ (item ++ text)))

/-- An entry of an object, given the text of its key behind the opening quote, and the text of
its value. -/
inductive IsEntry : List Char × List Char → List Char → Prop
  | mk {key before after value : List Char} (beforeBlank : IsBlanks before)
      (afterBlank : IsBlanks after) :
      IsEntry (key, value) ('"' :: (key ++ (before ++ ':' :: (after ++ value))))

/-- An object, given the texts of its keys and values. -/
def IsObject (entries : List (List Char × List Char)) (text : List Char) : Prop :=
  ∃ texts, List.Forall₂ IsEntry entries texts ∧ Enclosed '{' '}' texts text

/-- A JSON value of any kind and depth. -/
inductive IsValue : List Char → Prop
  | scalar {text : List Char} (isScalar : IsScalar text) : IsValue text
  | list {items : List (List Char)} {text : List Char} (enclosed : Enclosed '[' ']' items text)
      (values : ∀ item ∈ items, IsValue item) : IsValue text
  | object {entries : List (List Char × List Char)} {text : List Char}
      (isObject : IsObject entries text) (keys : ∀ entry ∈ entries, IsTextEnd entry.1)
      (values : ∀ entry ∈ entries, IsValue entry.2) : IsValue text

section Continued

variable {closing : Char} {items : List (List Char)} {text : List Char}

/-- No number goes on into what follows an item. -/
theorem Continued.endsNumber (continued : Continued closing items text)
    (isMark : continuesNumber closing = false) (rest : List Glyph) :
    EndsNumber (glyphs text ++ rest) := by
  cases continued with
  | done isBlanks =>
    rw [Text.glyphs_append, List.append_assoc]
    exact endsNumber_blanks_append isBlanks isMark
  | next beforeBlank =>
    rw [Text.glyphs_append, List.append_assoc]
    exact endsNumber_blanks_append beforeBlank rfl

/-- What follows an item is longer than there are further items, so its length is fuel enough for
them. -/
theorem Continued.length_pos (continued : Continued closing items text) :
    items.length < text.length := by
  induction continued with
  | done => simp
  | next _ _ _ ih =>
    simp only [List.length_append, List.length_cons]
    omega

end Continued

/-- Enclosed items start with the opening mark. -/
theorem Enclosed.starts {opening closing : Char} {items : List (List Char)} {text : List Char}
    (enclosed : Enclosed opening closing items text) : ∃ others, text = opening :: others := by
  cases enclosed with
  | empty => exact ⟨_, rfl⟩
  | items => exact ⟨_, rfl⟩

/-- An entry starts with the quote of its key. -/
theorem IsEntry.starts {entry : List Char × List Char} {text : List Char}
    (isEntry : IsEntry entry text) : ∃ inner, text = '"' :: inner := by
  cases isEntry
  exact ⟨_, rfl⟩

/-- Whether a character is not a blank and closes no list or object. -/
def opensItem (c : Char) : Bool := !isBlank c && c != ']' && c != '}'

/-- What opens an item is neither a blank nor a closing mark. -/
theorem of_opensItem {c : Char} (opens : opensItem c = true) :
    isBlank c = false ∧ c ≠ ']' ∧ c ≠ '}' := by
  simpa [opensItem, and_assoc] using opens

/-- What opens a scalar opens an item. -/
theorem opensItem_of_opensScalar {c : Char} (opens : opensScalar c = true) :
    opensItem c = true := by
  have notList : c ≠ ']' := ne_of_opensScalar opens rfl
  have notObject : c ≠ '}' := ne_of_opensScalar opens rfl
  simp [opensItem, solid_of_opensScalar opens, notList, notObject]

/-- Whether a text starts so that it can be an item of a list. -/
def Opens (text : List Char) : Prop :=
  ∃ first others, text = first :: others ∧ opensItem first = true

/-- The first character of an item is found behind blanks. -/
theorem Opens.skipBlanks {text : List Char} (opens : Opens text) {before : List Char}
    (blanks : IsBlanks before) (others : List Glyph) :
    ∃ first rest, opensItem first = true ∧ glyphs text ++ others = .char first :: rest ∧
      skipBlanks (glyphs before ++ (glyphs text ++ others)) = .char first :: rest := by
  obtain ⟨first, text, rfl, opensFirst⟩ := opens
  refine ⟨first, glyphs text ++ others, opensFirst, rfl, ?_⟩
  rw [skipBlanks_append blanks]
  exact skipBlanks_solid (of_opensItem opensFirst).1 _

/-- An object can be an item. -/
theorem IsObject.opens {entries : List (List Char × List Char)} {text : List Char}
    (isObject : IsObject entries text) : Opens text := by
  obtain ⟨texts, _, enclosed⟩ := isObject
  obtain ⟨others, rfl⟩ := enclosed.starts
  exact ⟨'{', others, rfl, rfl⟩

/-- Every value can be an item. -/
theorem IsValue.opens {text : List Char} (isValue : IsValue text) : Opens text := by
  cases isValue with
  | scalar isScalar =>
    obtain ⟨first, others, rfl, opens⟩ := isScalar.starts
    exact ⟨first, others, rfl, opensItem_of_opensScalar opens⟩
  | list enclosed =>
    obtain ⟨others, rfl⟩ := enclosed.starts
    exact ⟨'[', others, rfl, rfl⟩
  | object isObject => exact isObject.opens

/-! ## Passing over values -/

/-- A text that is passed over, also behind blanks, with enough fuel for its length. -/
def PassedOver (text : List Char) : Prop :=
  ∀ fuel, 2 * text.length ≤ fuel → ∀ before, IsBlanks before →
    Passes (skipValueWith fuel) (before ++ text)

/-- The items of a list are passed over. -/
theorem passes_skipItemsWith {items : List (List Char)} {text : List Char}
    (continued : Continued ']' items text) {first before : List Char} {fuel : Nat}
    (blanks : IsBlanks before) (passed : ∀ item ∈ first :: items, PassedOver item)
    (enough : 2 * (first.length + text.length) ≤ fuel) :
    Passes (skipItemsWith fuel) (before ++ first ++ text) := by
  induction continued generalizing first before fuel with
  | @done after afterBlank =>
    rw [List.length_append, List.length_singleton] at enough
    obtain ⟨fuel, rfl⟩ : ∃ less, fuel = less + 1 := ⟨fuel - 1, by omega⟩
    intro rest ends
    have value := passed first List.mem_cons_self fuel (by omega) before blanks
      (glyphs (after ++ [']']) ++ rest) (Continued.endsNumber (.done afterBlank) rfl rest)
    rw [Text.glyphs_append, List.append_assoc, skipItemsWith, value]
    simp only [skipBlanks_before afterBlank (c := ']') rfl]
    rfl
  | @next between after item text items betweenBlank afterBlank others ih =>
    rw [List.length_append, List.length_cons, List.length_append, List.length_append] at enough
    obtain ⟨fuel, rfl⟩ : ∃ less, fuel = less + 1 := ⟨fuel - 1, by omega⟩
    intro rest ends
    have value := passed first List.mem_cons_self fuel (by omega) before blanks
      (glyphs (between ++ ',' :: (after ++ (item ++ text))) ++ rest)
      (Continued.endsNumber (.next betweenBlank afterBlank others) rfl rest)
    rw [Text.glyphs_append, List.append_assoc, skipItemsWith, value]
    simp only [skipBlanks_before betweenBlank (c := ',') rfl]
    rw [← List.append_assoc]
    exact ih afterBlank (fun item mem => passed item (List.mem_cons_of_mem _ mem)) (by omega)
      rest ends

/-- An entry of an object is passed over, up to the mark that follows it. -/
theorem skipEntriesWith_entry {entry : List Char × List Char} {text before : List Char}
    (isEntry : IsEntry entry text) (isKey : IsTextEnd entry.1) (passed : PassedOver entry.2)
    (blanks : IsBlanks before) {fuel : Nat} (enough : 2 * text.length ≤ fuel) {rest : List Glyph}
    (ends : EndsNumber rest) (more : List Glyph) :
    (skipBlanks rest = .char '}' :: more →
      skipEntriesWith (fuel + 1) (glyphs (before ++ text) ++ rest) = .ok more) ∧
    (skipBlanks rest = .char ',' :: more →
      skipEntriesWith (fuel + 1) (glyphs (before ++ text) ++ rest) =
        skipEntriesWith fuel more) := by
  obtain @⟨key, beforeColon, afterColon, value, beforeBlank, afterBlank⟩ := isEntry
  simp only [List.length_append, List.length_cons] at enough
  have atColon : EndsNumber (glyphs (beforeColon ++ ':' :: (afterColon ++ value)) ++ rest) := by
    rw [Text.glyphs_append, List.append_assoc]
    exact endsNumber_blanks_append beforeBlank rfl
  have keyPassed := passes_skipText isKey _ atColon
  have valuePassed : skipValueWith fuel (glyphs (afterColon ++ value) ++ rest) = .ok rest :=
    passed fuel (by dsimp only; omega) afterColon afterBlank rest ends
  rw [skipEntriesWith, skipBlanks_before blanks rfl]
  simp only [Text.glyphs_append key, List.append_assoc (glyphs key), keyPassed, skipColon,
    skipBlanks_before beforeBlank (c := ':') rfl, valuePassed]
  constructor
  · intro next
    rw [next]
    rfl
  · intro next
    rw [next]
    rfl

/-- The entries of an object are passed over. -/
theorem passes_skipEntriesWith {texts : List (List Char)} {text : List Char}
    (continued : Continued '}' texts text) {first : List Char × List Char}
    {entries : List (List Char × List Char)} {firstText before : List Char} {fuel : Nat}
    (blanks : IsBlanks before)
    (isEntries : List.Forall₂ IsEntry (first :: entries) (firstText :: texts))
    (keys : ∀ entry ∈ first :: entries, IsTextEnd entry.1)
    (passed : ∀ entry ∈ first :: entries, PassedOver entry.2)
    (enough : 2 * (firstText.length + text.length) ≤ fuel) :
    Passes (skipEntriesWith fuel) (before ++ firstText ++ text) := by
  induction continued generalizing first entries firstText before fuel with
  | @done after afterBlank =>
    obtain ⟨isEntry, _⟩ := List.forall₂_cons.mp isEntries
    rw [List.length_append, List.length_singleton] at enough
    obtain ⟨fuel, rfl⟩ : ∃ less, fuel = less + 1 := ⟨fuel - 1, by omega⟩
    intro rest ends
    rw [Text.glyphs_append, List.append_assoc]
    refine (skipEntriesWith_entry isEntry (keys first List.mem_cons_self)
      (passed first List.mem_cons_self) blanks (by omega)
      (Continued.endsNumber (.done afterBlank) rfl rest) rest).1 ?_
    exact skipBlanks_before afterBlank rfl [] rest
  | @next between after item text items betweenBlank afterBlank others ih =>
    obtain ⟨isEntry, isEntries⟩ := List.forall₂_cons.mp isEntries
    rw [List.length_append, List.length_cons, List.length_append, List.length_append] at enough
    obtain ⟨fuel, rfl⟩ : ∃ less, fuel = less + 1 := ⟨fuel - 1, by omega⟩
    intro rest ends
    have enoughFirst : 2 * firstText.length ≤ fuel := by omega
    have endsFirst : EndsNumber (glyphs (between ++ ',' :: (after ++ (item ++ text))) ++ rest) :=
      Continued.endsNumber (.next betweenBlank afterBlank others) rfl rest
    have skipped := (skipEntriesWith_entry isEntry (keys first List.mem_cons_self)
      (passed first List.mem_cons_self) blanks enoughFirst endsFirst _).2
      (skipBlanks_before betweenBlank rfl _ rest)
    rw [Text.glyphs_append, List.append_assoc, skipped, ← List.append_assoc]
    obtain ⟨second, entries, isSecond, areOthers, rfl⟩ := List.forall₂_cons_right_iff.mp isEntries
    exact ih afterBlank (.cons isSecond areOthers)
      (fun entry mem => keys entry (List.mem_cons_of_mem _ mem))
      (fun entry mem => passed entry (List.mem_cons_of_mem _ mem)) (by omega) rest ends

/-- A scalar is passed over, behind any blanks. -/
theorem IsScalar.passedOver {text : List Char} (isScalar : IsScalar text) : PassedOver text := by
  obtain ⟨first, others, rfl, opens⟩ := isScalar.starts
  intro fuel enough before blanks rest ends
  rw [List.length_cons] at enough
  obtain ⟨fuel, rfl⟩ : ∃ less, fuel = less + 1 := ⟨fuel - 1, by omega⟩
  rw [skipValueWith, skipBlanks_before blanks (solid_of_opensScalar opens)]
  split
  next same => exact absurd (Text.char_inj same) (ne_of_opensScalar opens rfl)
  next same => exact absurd (Text.char_inj same) (ne_of_opensScalar opens rfl)
  next => exact passes_skipScalar isScalar rest ends

/-- A list of values is passed over if its items are. -/
theorem passedOver_list {items : List (List Char)} {text : List Char}
    (enclosed : Enclosed '[' ']' items text) (opens : ∀ item ∈ items, Opens item)
    (passed : ∀ item ∈ items, PassedOver item) : PassedOver text := by
  intro fuel enough before blanks rest ends
  cases enclosed with
  | @empty inner innerBlank =>
    simp only [List.length_cons, List.length_append] at enough
    obtain ⟨fuel, rfl⟩ : ∃ less, fuel = less + 1 := ⟨fuel - 1, by omega⟩
    rw [skipValueWith, skipBlanks_before blanks rfl]
    simp only [skipBlanks_before innerBlank (c := ']') rfl]
    rfl
  | @items inner item text items innerBlank others =>
    simp only [List.length_cons, List.length_append] at enough
    obtain ⟨fuel, rfl⟩ : ∃ less, fuel = less + 1 := ⟨fuel - 1, by omega⟩
    have enough : 2 * (item.length + text.length) ≤ fuel := by omega
    have inside := passes_skipItemsWith others isBlanks_nil passed enough rest ends
    obtain ⟨first, more, rfl, opensFirst⟩ := opens item List.mem_cons_self
    obtain ⟨solid, notClosing, _⟩ := of_opensItem opensFirst
    rw [skipValueWith, skipBlanks_before blanks rfl]
    simp only
    rw [List.cons_append, skipBlanks_before innerBlank solid]
    split
    next same => exact absurd (Text.char_inj same) notClosing
    next => exact inside

/-- An object is passed over if its keys are texts and its values are passed over. -/
theorem passedOver_object {entries : List (List Char × List Char)} {text : List Char}
    (isObject : IsObject entries text) (keys : ∀ entry ∈ entries, IsTextEnd entry.1)
    (passed : ∀ entry ∈ entries, PassedOver entry.2) : PassedOver text := by
  obtain ⟨texts, isEntries, enclosed⟩ := isObject
  intro fuel enough before blanks rest ends
  cases enclosed with
  | @empty inner innerBlank =>
    simp only [List.length_cons, List.length_append] at enough
    obtain ⟨fuel, rfl⟩ : ∃ less, fuel = less + 1 := ⟨fuel - 1, by omega⟩
    rw [skipValueWith, skipBlanks_before blanks rfl]
    simp only [skipBlanks_before innerBlank (c := '}') rfl]
    rfl
  | @items inner item text items innerBlank others =>
    obtain ⟨first, entries, isEntry, areOthers, rfl⟩ := List.forall₂_cons_right_iff.mp isEntries
    simp only [List.length_cons, List.length_append] at enough
    obtain ⟨fuel, rfl⟩ : ∃ less, fuel = less + 1 := ⟨fuel - 1, by omega⟩
    have enough : 2 * (item.length + text.length) ≤ fuel := by omega
    have inside := passes_skipEntriesWith others isBlanks_nil isEntries keys passed enough rest ends
    obtain ⟨key, rfl⟩ := isEntry.starts
    rw [skipValueWith, skipBlanks_before blanks rfl]
    simp only
    rw [List.cons_append, skipBlanks_before innerBlank rfl]
    exact inside

/-- Every value is passed over. -/
theorem IsValue.passedOver {text : List Char} (isValue : IsValue text) : PassedOver text := by
  induction isValue with
  | scalar isScalar => exact isScalar.passedOver
  | list enclosed values ih =>
    exact passedOver_list enclosed (fun item mem => (values item mem).opens) ih
  | object isObject keys _ ih => exact passedOver_object isObject keys ih

/-- A value is skipped. -/
theorem passes_skipValue {text before : List Char} (isValue : IsValue text)
    (blanks : IsBlanks before) : Passes skipValue (before ++ text) := by
  intro rest ends
  refine isValue.passedOver _ ?_ before blanks rest ends
  simp only [List.length_append, Text.length_glyphs]
  omega

end PocketLedger.Json
