import PocketLedger.Text.Outline

/-!
# Outlines can be read back

An outline carries no lengths, so it has to show by itself where it ends. Brackets, quotes and
braces close what they opened; a number ends at the first character that is not a digit.
`Forces` states this for two texts in front of any two rests that end a number, and its lemmas
follow the ways in which outlines are put together. `LawfulOutline` collects the types whose
outlines determine their values.
-/

namespace PocketLedger.Text

/-! ## Runs of characters -/

/-- A run of characters of a kind is determined by the text it begins, if what follows it is
not of that kind. -/
theorem append_inj_of_run (kind : Char → Prop) {left right leftRest rightRest : List Char}
    (leftRun : ∀ c ∈ left, kind c) (rightRun : ∀ c ∈ right, kind c)
    (leftEnd : ∀ c ∈ leftRest.head?, ¬ kind c) (rightEnd : ∀ c ∈ rightRest.head?, ¬ kind c)
    (same : left ++ leftRest = right ++ rightRest) : left = right ∧ leftRest = rightRest := by
  induction left generalizing right with
  | nil =>
    cases right with
    | nil => exact ⟨rfl, same⟩
    | cons c right =>
      rw [List.nil_append] at same
      subst same
      exact absurd (rightRun c List.mem_cons_self) (leftEnd c rfl)
  | cons c left ih =>
    cases right with
    | nil =>
      rw [List.nil_append] at same
      subst same
      exact absurd (leftRun c List.mem_cons_self) (rightEnd c rfl)
    | cons d right =>
      rw [List.cons_append, List.cons_append, List.cons.injEq] at same
      obtain ⟨rfl, same⟩ := same
      obtain ⟨rfl, rests⟩ := ih (fun c mem => leftRun c (List.mem_cons_of_mem _ mem))
        (fun c mem => rightRun c (List.mem_cons_of_mem _ mem)) same
      exact ⟨rfl, rests⟩

/-! ## Digits -/

/-- Digits below sixteen have characters of their own. -/
theorem digitChar_inj {left right : Nat} (leftLt : left < 16) (rightLt : right < 16)
    (same : left.digitChar = right.digitChar) : left = right := by
  have all : ∀ m < 16, ∀ n < 16, Nat.digitChar m = Nat.digitChar n → m = n := by decide
  exact all left leftLt right rightLt same

/-- The characters of a number are those of digits below its base. -/
theorem exists_digit_of_mem_toDigits {base number : Nat} (oneLt : 1 < base) {c : Char}
    (mem : c ∈ Nat.toDigits base number) : ∃ digit < base, c = Nat.digitChar digit := by
  induction number using Nat.strongRecOn with
  | ind number ih =>
    rw [Nat.toDigits_eq_if oneLt] at mem
    split at mem
    next small => exact ⟨number, small, List.mem_singleton.mp mem⟩
    next large =>
      rw [List.mem_append, List.mem_singleton] at mem
      rcases mem with higher | last
      · exact ih (number / base) (Nat.div_lt_self (by omega) oneLt) higher
      · exact ⟨number % base, Nat.mod_lt _ (by omega), last⟩

/-- In a base of at most sixteen, a number is determined by its digits. -/
theorem toDigits_injective {base : Nat} (oneLt : 1 < base) (leSixteen : base ≤ 16)
    {left right : Nat} (same : Nat.toDigits base left = Nat.toDigits base right) :
    left = right := by
  induction left using Nat.strongRecOn generalizing right with
  | ind left ih =>
    rw [Nat.toDigits_eq_if oneLt, Nat.toDigits_eq_if (n := right) oneLt] at same
    split at same
    next leftSmall =>
      split at same
      next rightSmall =>
        exact digitChar_inj (by omega) (by omega) (List.singleton_inj.mp same)
      next => simp [List.singleton_eq_append_iff] at same
    next leftLarge =>
      split at same
      next => simp [List.append_eq_singleton_iff] at same
      next rightLarge =>
        obtain ⟨higher, last⟩ := List.append_inj' same rfl
        have quotients : left / base = right / base :=
          ih (left / base) (Nat.div_lt_self (by omega) oneLt) higher
        have remainders : left % base = right % base :=
          digitChar_inj (Nat.lt_of_lt_of_le (Nat.mod_lt _ (by omega)) leSixteen)
            (Nat.lt_of_lt_of_le (Nat.mod_lt _ (by omega)) leSixteen) (List.singleton_inj.mp last)
        rw [← Nat.div_add_mod left base, ← Nat.div_add_mod right base, quotients, remainders]

/-! ## Texts that force a fact -/

/-- A text that does not go on with a decimal digit. -/
def EndsNumber (rest : List Char) : Prop := ∀ c ∈ rest.head?, ¬ c.isDigit

@[simp]
theorem endsNumber_nil : EndsNumber [] := by simp [EndsNumber]

/-- A number ends in front of a character that is no digit. -/
theorem endsNumber_cons {c : Char} (notDigit : c.isDigit = false) (rest : List Char) :
    EndsNumber (c :: rest) := by
  simp [EndsNumber, notDigit]

/-- Two texts that can only stand at the front of one text if a fact holds, and then end at
the same place. -/
def Forces (left right : List Char) (fact : Prop) : Prop :=
  ∀ ⦃leftRest rightRest : List Char⦄, EndsNumber leftRest → EndsNumber rightRest →
    left ++ leftRest = right ++ rightRest → fact ∧ leftRest = rightRest

namespace Forces

variable {left right nextLeft nextRight : List Char} {fact other : Prop}

/-- What is forced may be weakened. -/
theorem imp (forced : Forces left right fact) (implies : fact → other) :
    Forces left right other := by
  intro leftRest rightRest leftEnd rightEnd same
  obtain ⟨holds, rests⟩ := forced leftEnd rightEnd same
  exact ⟨implies holds, rests⟩

/-- Equal texts force the fact. -/
theorem of_eq (forced : Forces left right fact) (same : left = right) : fact :=
  (forced endsNumber_nil endsNumber_nil (by rw [same])).1

/-- A fixed text in front adds nothing. -/
theorem literal (text : List Char) (forced : Forces left right fact) :
    Forces (text ++ left) (text ++ right) fact := by
  intro leftRest rightRest leftEnd rightEnd same
  rw [List.append_assoc, List.append_assoc] at same
  exact forced leftEnd rightEnd (List.append_cancel_left same)

/-- Two texts with a character between them that ends a number force what each forces. -/
theorem followed (mark : Char) (notDigit : mark.isDigit = false)
    (first : Forces left right fact) (second : Forces nextLeft nextRight other) :
    Forces (left ++ mark :: nextLeft) (right ++ mark :: nextRight) (fact ∧ other) := by
  intro leftRest rightRest leftEnd rightEnd same
  rw [List.append_assoc, List.append_assoc, List.cons_append, List.cons_append] at same
  obtain ⟨holds, same⟩ :=
    first (endsNumber_cons notDigit _) (endsNumber_cons notDigit _) same
  obtain ⟨otherHolds, rests⟩ := second leftEnd rightEnd (List.cons.inj same).2
  exact ⟨⟨holds, otherHolds⟩, rests⟩

/-- A fixed text behind that ends a number adds nothing. -/
theorem closed (mark : Char) (notDigit : mark.isDigit = false) (text : List Char)
    (forced : Forces left right fact) :
    Forces (left ++ mark :: text) (right ++ mark :: text) fact := by
  have nothing : Forces text text True := by
    intro leftRest rightRest _ _ same
    exact ⟨trivial, List.append_cancel_left same⟩
  exact (forced.followed mark notDigit nothing).imp And.left

/-- The name of a constructor is not in doubt, so its argument is not either. -/
theorem applied (name : String) (forced : Forces left right fact) :
    Forces (Text.applied name left) (Text.applied name right) fact :=
  ((forced.closed ')' rfl []).literal ['(']).literal name.toList

/-- The name of a field is not in doubt, so its value is not either. -/
theorem field (name : String) (forced : Forces left right fact) :
    Forces (Text.field name left) (Text.field name right) fact :=
  (forced.literal [':', ' ']).literal name.toList

theorem joined_singleton {item item' : List Char} (forced : Forces item item' fact) :
    Forces (joined [item]) (joined [item']) fact := forced

/-- A first item, and what the items after it force. -/
theorem joined_cons {item item' : List Char} {next next' : List Char}
    {rest rest' : List (List Char)} (first : Forces item item' fact)
    (others : Forces (joined (next :: rest)) (joined (next' :: rest')) other) :
    Forces (joined (item :: next :: rest)) (joined (item' :: next' :: rest')) (fact ∧ other) :=
  first.followed ',' rfl (others.literal [' '])

theorem record (name : String) {fields fields' : List (List Char)}
    (forced : Forces (joined fields) (joined fields') fact) :
    Forces (Text.record name fields) (Text.record name fields') fact :=
  ((forced.closed ' ' rfl ['}']).literal [' ', '{', ' ']).literal name.toList

end Forces

/-! ## Quoted text -/

/-- The character that a letter after a backslash stands for. -/
def letterMeaning (letter : Char) : Char :=
  if letter = '0' then '\x00'
  else if letter = 't' then '\t'
  else if letter = 'r' then '\r'
  else if letter = 'n' then '\n'
  else letter

/-- The three ways in which a character is spelled: as it is, by a letter, and by number. -/
theorem escaped_cases (c : Char) :
    (escaped '"' c = [c] ∧ c ≠ '\\' ∧ c ≠ '"') ∨
    (∃ letter, escaped '"' c = ['\\', letter] ∧ letter ≠ 'u' ∧ letterMeaning letter = c) ∨
    escaped '"' c = '\\' :: 'u' :: '{' :: (Nat.toDigits 16 c.toNat ++ ['}']) := by
  unfold escaped
  split
  next h => exact .inr (.inl ⟨'0', rfl, by decide, h.symm⟩)
  split
  next h => exact .inr (.inl ⟨'t', rfl, by decide, h.symm⟩)
  split
  next h => exact .inr (.inl ⟨'r', rfl, by decide, h.symm⟩)
  split
  next h => exact .inr (.inl ⟨'n', rfl, by decide, h.symm⟩)
  split
  next h => exact .inr (.inl ⟨'\\', rfl, by decide, h.symm⟩)
  next notBackslash =>
    split
    next h => exact .inr (.inl ⟨'"', rfl, by decide, h.symm⟩)
    next notQuote =>
      split
      next => exact .inr (.inr rfl)
      next => exact .inl ⟨rfl, notBackslash, notQuote⟩

/-- A spelling never begins with the quote that would close the text. -/
theorem escaped_starts (c : Char) : ∃ first rest, escaped '"' c = first :: rest ∧ first ≠ '"' := by
  rcases escaped_cases c with ⟨plain, _, notQuote⟩ | ⟨letter, spelled, _, _⟩ | numbered
  · exact ⟨c, [], plain, notQuote⟩
  · exact ⟨'\\', [letter], spelled, by decide⟩
  · exact ⟨'\\', _, numbered, by decide⟩

/-- Numbers between braces are read back. -/
theorem braced_append_inj {left right : Nat} {leftRest rightRest : List Char}
    (same : Nat.toDigits 16 left ++ '}' :: leftRest = Nat.toDigits 16 right ++ '}' :: rightRest) :
    left = right ∧ leftRest = rightRest := by
  have notBrace : ∀ number, ∀ c ∈ Nat.toDigits 16 number, c ≠ '}' := by
    intro number c mem
    obtain ⟨digit, small, rfl⟩ := exists_digit_of_mem_toDigits (by decide) mem
    have all : ∀ digit < 16, Nat.digitChar digit ≠ '}' := by decide
    exact all digit small
  obtain ⟨digits, rests⟩ := append_inj_of_run (· ≠ '}') (notBrace left) (notBrace right)
    (by simp) (by simp) same
  exact ⟨toDigits_injective (by decide) (by decide) digits, (List.cons.inj rests).2⟩

/-- The spelling of a character is read back from the front of any text. -/
theorem escaped_append_inj {left right : Char} {leftRest rightRest : List Char}
    (same : escaped '"' left ++ leftRest = escaped '"' right ++ rightRest) :
    left = right ∧ leftRest = rightRest := by
  rcases escaped_cases left with ⟨plain, notBackslash, _⟩ | ⟨letter, spelled, notU, rfl⟩ | numbered
  · rcases escaped_cases right with ⟨plain', _, _⟩ | ⟨letter', spelled', _, _⟩ | numbered'
    · rw [plain, plain'] at same
      exact List.cons.inj same
    · rw [plain, spelled'] at same
      exact absurd (List.cons.inj same).1 notBackslash
    · rw [plain, numbered'] at same
      exact absurd (List.cons.inj same).1 notBackslash
  · rcases escaped_cases right with ⟨plain', notBackslash', _⟩ | ⟨letter', spelled', _, rfl⟩ | numbered'
    · rw [spelled, plain'] at same
      exact absurd (List.cons.inj same).1.symm notBackslash'
    · rw [spelled, spelled'] at same
      obtain ⟨rfl, rests⟩ := List.cons.inj (List.cons.inj same).2
      exact ⟨rfl, rests⟩
    · rw [spelled, numbered'] at same
      exact absurd (List.cons.inj (List.cons.inj same).2).1 notU
  · rcases escaped_cases right with ⟨plain', notBackslash', _⟩ | ⟨letter', spelled', notU', _⟩ | numbered'
    · rw [numbered, plain'] at same
      exact absurd (List.cons.inj same).1.symm notBackslash'
    · rw [numbered, spelled'] at same
      exact absurd (List.cons.inj (List.cons.inj same).2).1.symm notU'
    · rw [numbered, numbered'] at same
      simp only [List.cons_append, List.append_assoc, List.cons.injEq, true_and,
        List.nil_append] at same
      obtain ⟨codes, rests⟩ := braced_append_inj same
      exact ⟨Char.toNat_inj.mp codes, rests⟩

/-- A text up to its closing quote is read back. -/
theorem spelled_append_inj {left right leftRest rightRest : List Char}
    (same : left.flatMap (escaped '"') ++ '"' :: leftRest =
      right.flatMap (escaped '"') ++ '"' :: rightRest) :
    left = right ∧ leftRest = rightRest := by
  induction left generalizing right with
  | nil =>
    cases right with
    | nil => exact ⟨rfl, (List.cons.inj same).2⟩
    | cons d right =>
      obtain ⟨first, rest, starts, notQuote⟩ := escaped_starts d
      rw [List.flatMap_cons, starts] at same
      exact absurd (List.cons.inj same).1.symm notQuote
  | cons c left ih =>
    cases right with
    | nil =>
      obtain ⟨first, rest, starts, notQuote⟩ := escaped_starts c
      rw [List.flatMap_cons, starts] at same
      exact absurd (List.cons.inj same).1 notQuote
    | cons d right =>
      rw [List.flatMap_cons, List.flatMap_cons, List.append_assoc, List.append_assoc] at same
      obtain ⟨rfl, others⟩ := escaped_append_inj same
      obtain ⟨rfl, rests⟩ := ih others
      exact ⟨rfl, rests⟩

/-- A quoted text tells the text. -/
theorem Forces.quoted (left right : List Char) :
    Forces (quoted left) (quoted right) (left = right) := by
  intro leftRest rightRest _ _ same
  have inner : left.flatMap (escaped '"') ++ '"' :: leftRest =
      right.flatMap (escaped '"') ++ '"' :: rightRest := by
    simpa [Text.quoted] using same
  exact spelled_append_inj inner

/-! ## Lawful outlines -/

/-- Types whose outlines determine their values, also as items of a list. -/
class LawfulOutline (α : Type) [Outline α] : Prop where
  /-- An item is not taken for the end of its list. -/
  starts : ∀ value : α, ∃ first rest, outline value = first :: rest ∧ first ≠ ']'
  /-- Outlines that agree are of the same value. -/
  forces : ∀ left right : α, Forces (outline left) (outline right) (left = right)

export LawfulOutline (forces)

/-- Outlines are injective. -/
theorem outline_injective {α : Type} [Outline α] [LawfulOutline α] {left right : α}
    (same : outline left = outline right) : left = right :=
  (forces left right).of_eq same

instance : LawfulOutline Nat where
  starts number := by
    cases digits : Nat.toDigits 10 number with
    | nil => exact absurd digits Nat.toDigits_ne_nil
    | cons first rest =>
      have isDigit : first.isDigit :=
        Nat.isDigit_of_mem_toDigits (by decide) (by decide) (digits ▸ List.mem_cons_self)
      refine ⟨first, rest, digits, ?_⟩
      rintro rfl
      exact absurd isDigit (by decide)
  forces left right := by
    intro leftRest rightRest leftEnd rightEnd same
    obtain ⟨digits, rests⟩ := append_inj_of_run (fun c => c.isDigit)
      (fun _ mem => Nat.isDigit_of_mem_toDigits (by decide) (by decide) mem)
      (fun _ mem => Nat.isDigit_of_mem_toDigits (by decide) (by decide) mem) leftEnd rightEnd same
    exact ⟨toDigits_injective (by decide) (by decide) digits, rests⟩

instance : LawfulOutline UInt8 where
  starts word := LawfulOutline.starts word.toNat
  forces left right := (forces left.toNat right.toNat).imp UInt8.toNat_inj.mp

instance : LawfulOutline UInt32 where
  starts word := LawfulOutline.starts word.toNat
  forces left right := (forces left.toNat right.toNat).imp UInt32.toNat_inj.mp

instance : LawfulOutline UInt64 where
  starts word := LawfulOutline.starts word.toNat
  forces left right := (forces left.toNat right.toNat).imp UInt64.toNat_inj.mp

instance : LawfulOutline String where
  starts text := ⟨'"', _, rfl, by decide⟩
  forces left right := (Forces.quoted left.toList right.toList).imp String.toList_inj.mp

section Lists

variable {α : Type} [Outline α]

/-- What follows the first item of a list: the end of the list, or the next items. -/
def afterItem (items : List α) (rest : List Char) : List Char :=
  match items with
  | [] => ']' :: rest
  | _ => ',' :: ' ' :: (joined (items.map outline) ++ ']' :: rest)

theorem joined_cons_append (item : α) (items : List α) (rest : List Char) :
    joined ((item :: items).map outline) ++ ']' :: rest = outline item ++ afterItem items rest := by
  cases items with
  | nil => rfl
  | cons next items => simp [joined, afterItem]

/-- No number goes on behind an item of a list. -/
theorem endsNumber_afterItem (items : List α) (rest : List Char) :
    EndsNumber (afterItem items rest) := by
  cases items <;> exact endsNumber_cons rfl _

/-- The items of a list are read back up to its closing bracket. -/
theorem joined_append_inj [LawfulOutline α] {left right : List α} {leftRest rightRest : List Char}
    (same : joined (left.map outline) ++ ']' :: leftRest =
      joined (right.map outline) ++ ']' :: rightRest) :
    left = right ∧ leftRest = rightRest := by
  induction left generalizing right with
  | nil =>
    cases right with
    | nil => exact ⟨rfl, (List.cons.inj same).2⟩
    | cons item right =>
      obtain ⟨first, rest, starts, notEnd⟩ := LawfulOutline.starts item
      rw [joined_cons_append, starts] at same
      exact absurd (List.cons.inj same).1.symm notEnd
  | cons item left ih =>
    cases right with
    | nil =>
      obtain ⟨first, rest, starts, notEnd⟩ := LawfulOutline.starts item
      rw [joined_cons_append, starts] at same
      exact absurd (List.cons.inj same).1 notEnd
    | cons item' right =>
      rw [joined_cons_append, joined_cons_append] at same
      obtain ⟨rfl, after⟩ := forces item item' (endsNumber_afterItem left leftRest)
        (endsNumber_afterItem right rightRest) same
      -- The lists end together: a bracket is not the comma before a next item.
      cases left with
      | nil =>
        cases right with
        | nil => exact ⟨rfl, (List.cons.inj after).2⟩
        | cons => exact absurd (List.cons.inj after).1 (by decide)
      | cons =>
        cases right with
        | nil => exact absurd (List.cons.inj after).1 (by decide)
        | cons =>
          obtain ⟨equal, rests⟩ := ih (List.cons.inj (List.cons.inj after).2).2
          exact ⟨by rw [equal], rests⟩

/-- A list is read back from the front of any text, also one that goes on with a digit. -/
theorem outline_list_append_inj [LawfulOutline α] {left right : List α}
    {leftRest rightRest : List Char} (same : outline left ++ leftRest = outline right ++ rightRest) :
    left = right ∧ leftRest = rightRest := by
  have inner : joined (left.map outline) ++ ']' :: leftRest =
      joined (right.map outline) ++ ']' :: rightRest := by
    simpa [outline, bracketed] using same
  exact joined_append_inj inner

instance [LawfulOutline α] : LawfulOutline (List α) where
  starts items := ⟨'[', _, rfl, by decide⟩
  forces left right := fun _ _ _ _ same => outline_list_append_inj same

end Lists

end PocketLedger.Text
