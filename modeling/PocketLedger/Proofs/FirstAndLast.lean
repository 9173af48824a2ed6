import Mathlib.Data.List.Induction

/-!
# The first and the last item with a property

An address book and a keyring keep everything that they were given, and answer with one item of it:
the last or the first that has an address or an identifier. Here these items are told apart from
the others by their place. A search from the front finds the first and a search from the back the
last, if there is one at all.
-/

namespace PocketLedger

variable {α : Type}

/-- The first of some items that has a property. -/
def IsFirst (property : α → Prop) (items : List α) (item : α) : Prop :=
  ∃ before after, items = before ++ item :: after ∧ property item ∧
    ∀ earlier ∈ before, ¬ property earlier

/-- The last of some items that has a property. -/
def IsLast (property : α → Prop) (items : List α) (item : α) : Prop :=
  ∃ before after, items = before ++ item :: after ∧ property item ∧
    ∀ later ∈ after, ¬ property later

section FirstAndLast

variable {property : α → Prop} {items : List α} {item last : α}

theorem IsFirst.mem (first : IsFirst property items item) : item ∈ items := by
  obtain ⟨before, after, rfl, _⟩ := first
  simp

/-- Backwards the last item is the first. -/
theorem isFirst_reverse_iff : IsFirst property items.reverse item ↔ IsLast property items item := by
  constructor
  · rintro ⟨after, before, split, has, none⟩
    refine ⟨before.reverse, after.reverse, ?_, has, fun later mem => none later (by simpa using mem)⟩
    rw [← List.reverse_reverse items, split]
    simp
  · rintro ⟨before, after, rfl, has, none⟩
    exact ⟨after.reverse, before.reverse, by simp, has,
      fun later mem => none later (by simpa using mem)⟩

theorem IsLast.mem (isLast : IsLast property items item) : item ∈ items :=
  List.mem_reverse.mp (isFirst_reverse_iff.mpr isLast).mem

theorem not_isLast_nil : ¬ IsLast property [] item := by
  intro isLast
  cases isLast.mem

/-- A further item is the last if it has the property, and otherwise changes nothing. -/
theorem isLast_concat_iff [DecidablePred property] :
    IsLast property (items ++ [last]) item ↔
      if property last then item = last else IsLast property items item := by
  constructor
  · rintro ⟨before, after, split, has, none⟩
    cases after using List.reverseRecOn with
    | nil =>
      obtain rfl : last = item := List.singleton_inj.mp (List.append_inj_right' split rfl)
      rw [if_pos has]
    | append_singleton after final =>
      rw [← List.cons_append, ← List.append_assoc] at split
      obtain rfl : last = final := List.singleton_inj.mp (List.append_inj_right' split rfl)
      rw [if_neg (none last (by simp))]
      exact ⟨before, after, List.append_inj_left' split rfl, has,
        fun later mem => none later (by simp [mem])⟩
  · split
    next hasLast =>
      rintro rfl
      exact ⟨items, [], rfl, hasLast, by simp⟩
    next hasNot =>
      rintro ⟨before, after, rfl, has, none⟩
      refine ⟨before, after ++ [last], by simp, has, ?_⟩
      intro later mem
      rcases List.mem_append.mp mem with old | new
      · exact none later old
      · rwa [List.mem_singleton.mp new]

/-- A search from the front finds the first item. -/
theorem find?_eq_some_iff_isFirst [DecidablePred property] :
    items.find? (fun other => decide (property other)) = some item ↔
      IsFirst property items item := by
  rw [List.find?_eq_some_iff_append]
  constructor
  · rintro ⟨has, before, after, split, none⟩
    exact ⟨before, after, split, by simpa using has,
      fun earlier mem => by simpa using none earlier mem⟩
  · rintro ⟨before, after, split, has, none⟩
    exact ⟨by simpa using has, before, after, split,
      fun earlier mem => by simpa using none earlier mem⟩

/-- A search from the back finds the last item. -/
theorem find?_reverse_eq_some_iff_isLast [DecidablePred property] :
    items.reverse.find? (fun other => decide (property other)) = some item ↔
      IsLast property items item :=
  find?_eq_some_iff_isFirst.trans isFirst_reverse_iff

/-- Where some item has the property, one is the first. -/
theorem exists_isFirst [DecidablePred property] (occurs : ∃ item ∈ items, property item) :
    ∃ item, IsFirst property items item := by
  have found : (items.find? fun other => decide (property other)).isSome := by
    simpa using occurs
  obtain ⟨item, isFound⟩ := Option.isSome_iff_exists.mp found
  exact ⟨item, find?_eq_some_iff_isFirst.mp isFound⟩

/-- Where some item has the property, one is the last. -/
theorem exists_isLast [DecidablePred property] (occurs : ∃ item ∈ items, property item) :
    ∃ item, IsLast property items item := by
  have backwards : ∃ item ∈ items.reverse, property item := by simpa using occurs
  obtain ⟨item, isFirst⟩ := exists_isFirst backwards
  exact ⟨item, isFirst_reverse_iff.mp isFirst⟩

end FirstAndLast
end PocketLedger
