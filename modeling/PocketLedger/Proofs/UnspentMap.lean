import PocketLedger.Transaction.Draft

/-!
# Unspent outputs as a map

What adding and spending do to the outputs is seen through `Unspent.get?` alone: adding gives
one outpoint an output, spending takes one away, and everything else stays. The outputs of a
transaction are added up to the first that is present, which `Unspent.AddsUpTo` spells out. A list
of spends takes the outpoints up to the first that is missing, and `Unspent.taken` names them. The
notices report the same outpoints.
-/

namespace PocketLedger

/-- The outpoints whose spending is reported, in order. -/
def spentPoints (notices : List Notice) : List OutPoint :=
  notices.filterMap fun
    | .outputSpent point => some point
    | _ => none

@[simp]
theorem spentPoints_append (left right : List Notice) :
    spentPoints (left ++ right) = spentPoints left ++ spentPoints right :=
  List.filterMap_append

namespace Step

variable {σ ε α β γ : Type}

/-- Steps in a row can be grouped in any way. -/
theorem andThen_assoc (first : Step σ ε α) (second : σ → α → Step σ ε β)
    (third : σ → β → Step σ ε γ) :
    (first.andThen second).andThen third =
      first.andThen fun state value => (second state value).andThen third := by
  unfold andThen
  cases first.result with
  | error error => rfl
  | ok value =>
    cases result : (second first.state value).result <;> simp [result]

/-- What follows a step that succeeded. -/
theorem andThen_of_ok {first : Step σ ε α} {value : α} (succeeded : first.result = .ok value)
    (next : σ → α → Step σ ε β) :
    first.andThen next = ⟨(next first.state value).state,
      first.notices ++ (next first.state value).notices, (next first.state value).result⟩ := by
  rw [andThen, succeeded]

end Step

namespace Unspent

/-! ## Single outputs -/

@[simp]
theorem get?_empty (point : OutPoint) : empty.get? point = none := by
  simp [get?, empty]

theorem contains_eq (set : Unspent) (point : OutPoint) :
    set.contains point = (set.get? point).isSome :=
  Std.ExtTreeMap.contains_eq_isSome_getElem?

/-- The listing holds what is found. -/
theorem mem_available_iff (set : Unspent) (point : OutPoint) (output : Output) :
    (point, output) ∈ set.available ↔ set.get? point = some output :=
  Std.ExtTreeMap.mem_toList_iff_getElem?_eq_some

/-- Inserting changes what one outpoint leads to. -/
theorem get?_insert (set : Unspent) (point other : OutPoint) (output : Output) :
    get? ⟨set.outputs.insert point output⟩ other =
      if point = other then some output else set.get? other := by
  simp only [get?, Std.ExtTreeMap.getElem?_insert, Std.LawfulEqCmp.compare_eq_iff_eq]

/-- Erasing changes what one outpoint leads to. -/
theorem get?_erase (set : Unspent) (point other : OutPoint) :
    get? ⟨set.outputs.erase point⟩ other = if point = other then none else set.get? other := by
  simp only [get?, Std.ExtTreeMap.getElem?_erase, Std.LawfulEqCmp.compare_eq_iff_eq]

/-- An output is refused at an outpoint that is present, and added otherwise. -/
theorem add_cases (set : Unspent) (point : OutPoint) (output : Output) :
    ((set.get? point).isSome ∧ set.add point output = .failed set (.duplicate point)) ∨
    (set.get? point = none ∧ set.add point output =
      ⟨⟨set.outputs.insert point output⟩, [.outputAdded point output], .ok ()⟩) := by
  unfold add
  rw [contains_eq]
  split
  next present => exact .inl ⟨present, rfl⟩
  next absent => exact .inr ⟨Option.not_isSome_iff_eq_none.mp absent, rfl⟩

/-- A missing outpoint cannot be spent, and the output at any other is taken out. -/
theorem spend_cases (set : Unspent) (point : OutPoint) :
    (set.get? point = none ∧ set.spend point = .failed set (.unknown point)) ∨
    (∃ output, set.get? point = some output ∧ set.spend point =
      ⟨⟨set.outputs.erase point⟩, [.outputSpent point], .ok output⟩) := by
  unfold spend
  cases set.get? point with
  | none => exact .inl ⟨rfl, rfl⟩
  | some output => exact .inr ⟨output, rfl, rfl⟩

/-! ## The outputs of a transaction -/

/-- The output that is created at an outpoint, if outputs are added under an id from an index
on. -/
def created (txId : Digest) (index : Nat) (outputs : List Output) (point : OutPoint) :
    Option Output :=
  if point.txId = txId ∧ index ≤ point.index.toNat then outputs[point.index.toNat - index]?
  else none

theorem toNat_toUInt32 {index : Nat} (small : index < UInt32.size) : index.toUInt32.toNat = index := by
  rw [Nat.toUInt32_eq, UInt32.toNat_ofNat_of_lt' small]

/-- Nothing is created before the first index. -/
theorem created_succ_self {txId : Digest} {index : Nat} (small : index < UInt32.size)
    (outputs : List Output) : created txId (index + 1) outputs ⟨txId, index.toUInt32⟩ = none := by
  rw [created, if_neg]
  rw [toNat_toUInt32 small]
  omega

/-- The first of the created outputs is at the index, the others are after it. -/
theorem created_cons {txId : Digest} {index : Nat} (small : index < UInt32.size) (output : Output)
    (rest : List Output) (point : OutPoint) :
    created txId index (output :: rest) point =
      if (⟨txId, index.toUInt32⟩ : OutPoint) = point then some output
      else created txId (index + 1) rest point := by
  obtain ⟨id, number⟩ := point
  have sameIndex : index.toUInt32 = number ↔ index = number.toNat := by
    rw [← UInt32.toNat_inj, toNat_toUInt32 small]
  simp only [created, OutPoint.mk.injEq, sameIndex]
  by_cases sameId : id = txId
  · rcases Nat.lt_trichotomy index number.toNat with below | equal | above
    · have offset : number.toNat - index = number.toNat - (index + 1) + 1 := by omega
      rw [if_pos ⟨sameId, by omega⟩, if_neg (by omega), if_pos ⟨sameId, by omega⟩, offset,
        List.getElem?_cons_succ]
    · rw [if_pos ⟨sameId, by omega⟩, if_pos ⟨sameId.symm, equal⟩, equal, Nat.sub_self,
        List.getElem?_cons_zero]
    · rw [if_neg (by omega), if_neg (by omega), if_neg (by omega)]
  · rw [if_neg (fun both => sameId both.1), if_neg (fun both => sameId both.1.symm),
      if_neg (fun both => sameId both.1)]

/-- Outputs can be added as long as their indices are words and none of them is present, and
then exactly they are added. -/
theorem addFrom_of_absent {txId : Digest} {index : Nat} {outputs : List Output} {set : Unspent}
    (room : index + outputs.length ≤ UInt32.size)
    (absent : ∀ point, (created txId index outputs point).isSome → set.get? point = none) :
    (addFrom txId index outputs set).result = .ok () ∧
      ∀ point, (addFrom txId index outputs set).state.get? point =
        (created txId index outputs point).or (set.get? point) := by
  induction outputs generalizing index set with
  | nil =>
    refine ⟨rfl, fun point => ?_⟩
    simp [addFrom, Step.done, created]
  | cons output rest ih =>
    rw [List.length_cons] at room
    have small : index < UInt32.size := by omega
    have first : set.get? ⟨txId, index.toUInt32⟩ = none :=
      absent _ (by rw [created_cons small, if_pos rfl]; rfl)
    rcases set.add_cases ⟨txId, index.toUInt32⟩ output with ⟨present, _⟩ | ⟨_, added⟩
    · rw [first] at present
      cases present
    · have others : ∀ point, (created txId (index + 1) rest point).isSome →
          get? ⟨set.outputs.insert ⟨txId, index.toUInt32⟩ output⟩ point = none := by
        intro point later
        have distinct : (⟨txId, index.toUInt32⟩ : OutPoint) ≠ point := by
          rintro rfl
          rw [created_succ_self small] at later
          cases later
        rw [get?_insert, if_neg distinct]
        exact absent point (by rw [created_cons small, if_neg distinct]; exact later)
      have roomAfter : index + 1 + rest.length ≤ UInt32.size := by omega
      obtain ⟨result, states⟩ := ih roomAfter others
      rw [addFrom, added]
      refine ⟨result, fun point => ?_⟩
      refine (states point).trans ?_
      rw [get?_insert, created_cons small]
      by_cases same : (⟨txId, index.toUInt32⟩ : OutPoint) = point
      · rw [if_pos same, if_pos same, ← same, created_succ_self small]
        rfl
      · rw [if_neg same, if_neg same]

/-- Adding the outputs of a transaction whose id is at no outpoint. -/
theorem addOutputs_of_absent {set : Unspent} {tx : Transaction}
    (short : tx.outputs.length ≤ UInt32.size)
    (absent : ∀ point : OutPoint, point.txId = tx.id → set.get? point = none) :
    (set.addOutputs tx).result = .ok () ∧
      ∀ point, (set.addOutputs tx).state.get? point =
        (created tx.id 0 tx.outputs point).or (set.get? point) := by
  apply addFrom_of_absent
  · rwa [Nat.zero_add]
  · intro point found
    apply absent
    by_cases same : point.txId = tx.id
    · exact same
    · rw [created, if_neg (fun both => same both.1)] at found
      cases found

/-- The outpoints that are created have the id and an index in the range of the outputs. -/
theorem isSome_created_iff (txId : Digest) (index : Nat) (outputs : List Output)
    (point : OutPoint) :
    (created txId index outputs point).isSome ↔ point.txId = txId ∧
      index ≤ point.index.toNat ∧ point.index.toNat < index + outputs.length := by
  unfold created
  split
  next within =>
    rw [isSome_getElem?]
    constructor
    · intro bound
      exact ⟨within.1, within.2, by omega⟩
    · rintro ⟨_, _, bound⟩
      omega
  next outside =>
    constructor
    · nofun
    · rintro ⟨sameId, above, _⟩
      exact absurd ⟨sameId, above⟩ outside

/-- Outputs can be added in two goes. -/
theorem addFrom_append (txId : Digest) (index : Nat) (first second : List Output)
    (set : Unspent) :
    addFrom txId index (first ++ second) set =
      (addFrom txId index first set).andThen fun set () =>
        addFrom txId (index + first.length) second set := by
  induction first generalizing index set with
  | nil => simp [addFrom, Step.andThen, Step.done]
  | cons output first ih =>
    rw [List.cons_append, addFrom, addFrom, Step.andThen_assoc]
    congr 1
    funext set _
    rw [ih, List.length_cons, Nat.add_right_comm, Nat.add_assoc]

/-- Adding outputs takes nothing away. -/
theorem get?_addFrom_of_some {set : Unspent} {point : OutPoint} {output : Output}
    (found : set.get? point = some output) (txId : Digest) (index : Nat) (outputs : List Output) :
    (addFrom txId index outputs set).state.get? point = some output := by
  induction outputs generalizing index set with
  | nil => exact found
  | cons other rest ih =>
    rw [addFrom]
    rcases set.add_cases ⟨txId, index.toUInt32⟩ other with ⟨_, added⟩ | ⟨absent, added⟩
    · rw [added]
      exact found
    · rw [added]
      refine ih ?_ (index + 1)
      have distinct : (⟨txId, index.toUInt32⟩ : OutPoint) ≠ point := by
        rintro rfl
        rw [absent] at found
        cases found
      rw [get?_insert, if_neg distinct]
      exact found

/-- Adding stops where an outpoint is present, be it because it was added just before, and what
was added so far stays. -/
theorem addFrom_of_present {txId : Digest} {index : Nat} {before : List Output} {set : Unspent}
    (added : (addFrom txId index before set).result = .ok ())
    (present : ((addFrom txId index before set).state.get?
      ⟨txId, (index + before.length).toUInt32⟩).isSome)
    (output : Output) (after : List Output) :
    addFrom txId index (before ++ output :: after) set =
      ⟨(addFrom txId index before set).state, (addFrom txId index before set).notices,
        .error (.duplicate ⟨txId, (index + before.length).toUInt32⟩)⟩ := by
  rw [addFrom_append, Step.andThen_of_ok added, addFrom]
  rcases (addFrom txId index before set).state.add_cases
    ⟨txId, (index + before.length).toUInt32⟩ output with ⟨_, refused⟩ | ⟨absent, _⟩
  · rw [refused]
    simp [Step.failed, Step.andThen]
  · rw [absent] at present
    cases present

/-- The outputs before the first one whose outpoint is present. -/
theorem exists_absent_part (txId : Digest) (index : Nat) (outputs : List Output) (set : Unspent)
    (room : index + outputs.length ≤ UInt32.size) :
    ∃ added rest, outputs = added ++ rest ∧
      (∀ point, (created txId index added point).isSome → set.get? point = none) ∧
      (rest = [] ∨ (set.get? ⟨txId, (index + added.length).toUInt32⟩).isSome) := by
  have nothing : ∀ index point, ¬ (created txId index [] point).isSome := by
    intro index point found
    rw [isSome_created_iff, List.length_nil] at found
    omega
  induction outputs generalizing index with
  | nil => exact ⟨[], [], rfl, fun point found => absurd found (nothing index point), .inl rfl⟩
  | cons output outputs ih =>
    rw [List.length_cons] at room
    have small : index < UInt32.size := by omega
    cases found : set.get? ⟨txId, index.toUInt32⟩ with
    | some other =>
      exact ⟨[], output :: outputs, rfl, fun point found => absurd found (nothing index point),
        .inr (by simp [found])⟩
    | none =>
      obtain ⟨added, rest, rfl, absent, ending⟩ := ih (index + 1) (by omega)
      refine ⟨output :: added, rest, rfl, ?_, ?_⟩
      · intro point created
        rw [created_cons small] at created
        split at created
        next same => rw [← same, found]
        next => exact absent point created
      · rw [List.length_cons, ← Nat.add_assoc, Nat.add_right_comm]
        exact ending

/-- How far adding the outputs of a transaction gets: up to the first that is present, or until
the indices are used up and start again at zero, where an output was just added. -/
structure AddsUpTo (set : Unspent) (tx : Transaction) (added rest : List Output) : Prop where
  outputs : tx.outputs = added ++ rest
  room : added.length ≤ UInt32.size
  absent : ∀ point, (created tx.id 0 added point).isSome → set.get? point = none
  get?_eq : ∀ point, (set.addOutputs tx).state.get? point =
    (created tx.id 0 added point).or (set.get? point)
  ending : (rest = [] ∧ (set.addOutputs tx).result = .ok ()) ∨
    (rest ≠ [] ∧
      (added.length = UInt32.size ∨ (set.get? ⟨tx.id, added.length.toUInt32⟩).isSome) ∧
      (set.addOutputs tx).result = .error (.duplicate ⟨tx.id, added.length.toUInt32⟩))

/-- An absent part of the outputs is added, and if it cannot go on from there, nothing else. -/
theorem addsUpTo_of_absent {set : Unspent} {tx : Transaction} {added rest : List Output}
    (outputs : tx.outputs = added ++ rest) (room : added.length ≤ UInt32.size)
    (absent : ∀ point, (created tx.id 0 added point).isSome → set.get? point = none)
    (ending : rest = [] ∨ added.length = UInt32.size ∨
      (set.get? ⟨tx.id, added.length.toUInt32⟩).isSome) : AddsUpTo set tx added rest := by
  obtain ⟨result, states⟩ := addFrom_of_absent (by rwa [Nat.zero_add]) absent
  cases rest with
  | nil =>
    rw [List.append_nil] at outputs
    refine ⟨by rw [outputs, List.append_nil], room, absent, ?_, .inl ⟨rfl, ?_⟩⟩
    · rw [addOutputs, outputs]
      exact states
    · rw [addOutputs, outputs]
      exact result
  | cons output rest =>
    have stops := ending.resolve_left (List.cons_ne_nil output rest)
    have present : ((addFrom tx.id 0 added set).state.get?
        ⟨tx.id, (0 + added.length).toUInt32⟩).isSome := by
      rw [states, Nat.zero_add, Option.isSome_or]
      rcases stops with full | there
      · -- The index after the last one is zero again, and the output there is new.
        have isNew : (created tx.id 0 added ⟨tx.id, added.length.toUInt32⟩).isSome := by
          have again : UInt32.size.toUInt32.toNat = 0 := rfl
          simp [isSome_created_iff, full, again]
        rw [isNew, Bool.true_or]
      · rw [there, Bool.or_true]
    have step := addFrom_of_present result present output rest
    rw [Nat.zero_add] at step
    refine ⟨outputs, room, absent, ?_, .inr ⟨List.cons_ne_nil output rest, stops, ?_⟩⟩
    · rw [addOutputs, outputs, step]
      exact states
    · rw [addOutputs, outputs, step]

/-- Adding the outputs of a transaction gets to some point, possibly the end. -/
theorem exists_addsUpTo (set : Unspent) (tx : Transaction) :
    ∃ added rest, AddsUpTo set tx added rest := by
  by_cases short : tx.outputs.length ≤ UInt32.size
  · obtain ⟨added, rest, outputs, absent, ending⟩ :=
      exists_absent_part tx.id 0 tx.outputs set (by rwa [Nat.zero_add])
    have room : added.length ≤ UInt32.size := by
      rw [outputs, List.length_append] at short
      omega
    rw [Nat.zero_add] at ending
    exact ⟨added, rest, addsUpTo_of_absent outputs room absent (ending.imp_right .inr)⟩
  · -- Only as many outputs as there are indices can be absent.
    have whole : (tx.outputs.take UInt32.size).length = UInt32.size := by
      rw [List.length_take]
      omega
    obtain ⟨added, rest, outputs, absent, ending⟩ :=
      exists_absent_part tx.id 0 (tx.outputs.take UInt32.size) set (by omega)
    rw [outputs, List.length_append] at whole
    rw [Nat.zero_add] at ending
    have split : tx.outputs = added ++ (rest ++ tx.outputs.drop UInt32.size) := by
      rw [← List.append_assoc, ← outputs, List.take_append_drop]
    refine ⟨added, _, addsUpTo_of_absent split (by omega) absent (.inr ?_)⟩
    rcases ending with rfl | present
    · rw [List.length_nil] at whole
      exact .inl whole
    · exact .inr present

namespace AddsUpTo

variable {set : Unspent} {tx : Transaction} {added rest : List Output}

/-- An outpoint is among the added if the transaction has an output there and all of its
outputs up to there are absent. -/
theorem isSome_created_iff (adds : AddsUpTo set tx added rest) (point : OutPoint) :
    (created tx.id 0 added point).isSome ↔ point.txId = tx.id ∧
      point.index.toNat < tx.outputs.length ∧
      ∀ index ≤ point.index, set.get? ⟨tx.id, index⟩ = none := by
  have length : tx.outputs.length = added.length + rest.length := by
    rw [adds.outputs, List.length_append]
  rw [Unspent.isSome_created_iff, Nat.zero_add]
  constructor
  · rintro ⟨ofId, _, bound⟩
    refine ⟨ofId, by omega, fun index le => adds.absent _ ?_⟩
    rw [Unspent.isSome_created_iff, Nat.zero_add]
    exact ⟨rfl, Nat.zero_le _, Nat.lt_of_le_of_lt (UInt32.le_iff_toNat_le.mp le) bound⟩
  · rintro ⟨ofId, bound, absent⟩
    refine ⟨ofId, Nat.zero_le _, ?_⟩
    have word := point.index.toNat_lt_size
    rcases adds.ending with ⟨rfl, _⟩ | ⟨_, full | present, _⟩
    · rw [length, List.length_nil] at bound
      exact bound
    · rw [full]
      exact word
    · refine Nat.lt_of_not_le fun beyond => ?_
      have le : added.length.toUInt32 ≤ point.index := by
        rw [UInt32.le_iff_toNat_le, toNat_toUInt32 (Nat.lt_of_le_of_lt beyond word)]
        exact beyond
      rw [absent _ le] at present
      cases present

end AddsUpTo

/-- What adding the outputs of a transaction makes available. -/
theorem get?_addOutputs_of_absent {set : Unspent} {point : OutPoint}
    (absent : set.get? point = none) (tx : Transaction) (output : Output) :
    (set.addOutputs tx).state.get? point = some output ↔ point.txId = tx.id ∧
      tx.outputs[point.index.toNat]? = some output ∧
      ∀ index ≤ point.index, set.get? ⟨tx.id, index⟩ = none := by
  obtain ⟨added, rest, adds⟩ := set.exists_addsUpTo tx
  rw [adds.get?_eq, absent, Option.or_none]
  constructor
  · intro made
    obtain ⟨ofId, _, below⟩ := (adds.isSome_created_iff point).mp (by rw [made]; rfl)
    rw [created, if_pos ⟨ofId, Nat.zero_le _⟩, Nat.sub_zero] at made
    have bound := (List.getElem?_eq_some_iff.mp made).1
    refine ⟨ofId, ?_, below⟩
    rw [adds.outputs, List.getElem?_append_left bound]
    exact made
  · rintro ⟨ofId, there, below⟩
    have made := (adds.isSome_created_iff point).mpr
      ⟨ofId, (List.getElem?_eq_some_iff.mp there).1, below⟩
    have bound := ((isSome_created_iff tx.id 0 added point).mp made).2.2
    rw [Nat.zero_add] at bound
    rw [adds.outputs, List.getElem?_append_left bound] at there
    rw [created, if_pos ⟨ofId, Nat.zero_le _⟩, Nat.sub_zero]
    exact there

/-- Adding the outputs of a transaction makes nothing available exactly if there are none or the
first one is present. -/
theorem addOutputs_adds_nothing_iff (set : Unspent) (tx : Transaction) :
    (∀ point, ((set.addOutputs tx).state.get? point).isSome → (set.get? point).isSome) ↔
      tx.outputs = [] ∨ (set.get? ⟨tx.id, 0⟩).isSome := by
  constructor
  · intro nothing
    cases outputs : tx.outputs with
    | nil => exact .inl rfl
    | cons output rest =>
      right
      cases absent : set.get? ⟨tx.id, 0⟩ with
      | some => rfl
      | none =>
        have made : (set.addOutputs tx).state.get? ⟨tx.id, 0⟩ = some output := by
          refine (get?_addOutputs_of_absent absent tx output).mpr ⟨rfl, by rw [outputs]; rfl, ?_⟩
          intro index le
          rw [UInt32.le_zero_iff.mp le]
          exact absent
        have there := nothing ⟨tx.id, 0⟩ (by rw [made]; rfl)
        rw [absent] at there
        exact there
  · intro stops point present
    cases absent : set.get? point with
    | some => rfl
    | none =>
      obtain ⟨output, found⟩ := Option.isSome_iff_exists.mp present
      obtain ⟨_, there, below⟩ := (get?_addOutputs_of_absent absent tx output).mp found
      rcases stops with none | first
      · rw [none] at there
        cases there
      · rw [below 0 UInt32.zero_le] at first
        cases first

/-- The outputs of a transaction can all be added exactly if there are indices for them and none
of them is present. -/
theorem addOutputs_ok_iff (set : Unspent) (tx : Transaction) :
    (set.addOutputs tx).result = .ok () ↔ tx.outputs.length ≤ UInt32.size ∧
      ∀ index : UInt32, index.toNat < tx.outputs.length → set.get? ⟨tx.id, index⟩ = none := by
  obtain ⟨added, rest, adds⟩ := set.exists_addsUpTo tx
  rcases adds.ending with ⟨rfl, result⟩ | ⟨nonempty, stops, result⟩
  · have all := adds.outputs
    rw [List.append_nil] at all
    refine ⟨fun _ => ⟨all ▸ adds.room, fun index bound => adds.absent _ ?_⟩, fun _ => result⟩
    rw [isSome_created_iff, ← all, Nat.zero_add]
    exact ⟨rfl, Nat.zero_le _, bound⟩
  · have positive := List.length_pos_iff.mpr nonempty
    rw [result]
    refine ⟨nofun, fun ⟨room, absent⟩ => ?_⟩
    rw [adds.outputs, List.length_append] at room absent
    have small : added.length < UInt32.size := by omega
    have first := absent added.length.toUInt32 (by rw [toNat_toUInt32 small]; omega)
    rcases stops with full | present
    · omega
    · rw [first] at present
      cases present

/-- All outputs of a transaction are present once they could be added. -/
theorem isSome_of_addOutputs_ok {set : Unspent} {tx : Transaction}
    (added : (set.addOutputs tx).result = .ok ()) {index : UInt32}
    (bound : index.toNat < tx.outputs.length) :
    ((set.addOutputs tx).state.get? ⟨tx.id, index⟩).isSome := by
  have absent := ((set.addOutputs_ok_iff tx).mp added).2
  rw [Option.isSome_iff_exists]
  refine ⟨tx.outputs[index.toNat], ?_⟩
  refine (get?_addOutputs_of_absent (absent index bound) tx _).mpr
    ⟨rfl, List.getElem?_eq_getElem bound, fun lower le => absent lower ?_⟩
  exact Nat.lt_of_le_of_lt (UInt32.le_iff_toNat_le.mp le) bound

/-- Adding outputs reports no spending. -/
theorem spentPoints_addFrom (txId : Digest) (index : Nat) (outputs : List Output)
    (set : Unspent) : spentPoints (addFrom txId index outputs set).notices = [] := by
  induction outputs generalizing index set with
  | nil => rfl
  | cons output rest ih =>
    rw [addFrom]
    rcases set.add_cases ⟨txId, index.toUInt32⟩ output with ⟨_, added⟩ | ⟨_, added⟩
    · rw [added]
      rfl
    · rw [added]
      exact ih (index + 1) _

/-- From the index zero on, every output is created at its own index. -/
theorem created_zero_eq_some_iff (tx : Transaction) (point : OutPoint) (output : Output) :
    created tx.id 0 tx.outputs point = some output ↔
      tx.id = point.txId ∧ tx.outputs[point.index.toNat]? = some output := by
  unfold created
  split
  next same => simp [same.1]
  next other =>
    have different : ¬ tx.id = point.txId := fun same => other ⟨same.symm, Nat.zero_le _⟩
    simp [different]

/-! ## Lists of spends -/

/-- The outpoints that spending in order takes, up to the first that is not present. -/
def taken (set : Unspent) : List OutPoint → List OutPoint
  | [] => []
  | first :: rest =>
    match (set.spend first).result with
    | .ok _ => first :: (set.spend first).state.taken rest
    | .error _ => []

/-- Nothing is taken from a missing outpoint on. -/
theorem taken_cons_of_absent {set : Unspent} {point : OutPoint} (absent : set.get? point = none)
    (rest : List OutPoint) : set.taken (point :: rest) = [] := by
  rw [taken, spend, absent]
  rfl

/-- A present outpoint is taken, and the rest is taken from what is left. -/
theorem taken_cons_of_present {set : Unspent} {point : OutPoint} {output : Output}
    (present : set.get? point = some output) (rest : List OutPoint) :
    set.taken (point :: rest) = point :: taken ⟨set.outputs.erase point⟩ rest := by
  rw [taken, spend, present]

/-- What is taken was there. -/
theorem isSome_of_mem_taken {set : Unspent} {points : List OutPoint} {point : OutPoint}
    (mem : point ∈ set.taken points) : (set.get? point).isSome := by
  induction points generalizing set with
  | nil => cases mem
  | cons first rest ih =>
    cases found : set.get? first with
    | none =>
      rw [taken_cons_of_absent found] at mem
      cases mem
    | some output =>
      rw [taken_cons_of_present found, List.mem_cons] at mem
      rcases mem with rfl | later
      · rw [found]
        rfl
      · have afterwards := ih later
        rw [get?_erase] at afterwards
        split at afterwards
        · cases afterwards
        · exact afterwards

/-- Nothing is taken twice. -/
theorem nodup_taken (set : Unspent) (points : List OutPoint) : (set.taken points).Nodup := by
  induction points generalizing set with
  | nil => exact List.nodup_nil
  | cons first rest ih =>
    cases found : set.get? first with
    | none =>
      rw [taken_cons_of_absent found]
      exact List.nodup_nil
    | some output =>
      rw [taken_cons_of_present found, List.nodup_cons]
      refine ⟨fun again => ?_, ih _⟩
      have present := isSome_of_mem_taken again
      rw [get?_erase, if_pos rfl] at present
      cases present

end Unspent

namespace Draft

open Unspent (taken)

/-- A spend of a missing outpoint fails and changes nothing. -/
theorem spend_of_absent {set : Unspent} {spend : Spend} (absent : set.get? spend.outpoint = none)
    (draft : Draft) : draft.spend set spend = .failed set (.unspent (.unknown spend.outpoint)) := by
  rw [Draft.spend, Unspent.spend, absent]
  rfl

/-- A spend of a present outpoint takes it out and adds an input. -/
theorem spend_of_present {set : Unspent} {spend : Spend} {output : Output}
    (present : set.get? spend.outpoint = some output) (draft : Draft) :
    draft.spend set spend = ⟨⟨set.outputs.erase spend.outpoint⟩, [.outputSpent spend.outpoint],
      .ok { draft with inputs := draft.inputs ++ [spend.input] }⟩ := by
  rw [Draft.spend, Unspent.spend, present]
  rfl

/-- Spending in order leaves all but what was taken. -/
theorem get?_spendAll (draft : Draft) (spends : List Spend) (set : Unspent) (point : OutPoint) :
    (draft.spendAll spends set).state.get? point =
      if point ∈ set.taken (spends.map Spend.outpoint) then none else set.get? point := by
  induction spends generalizing draft set with
  | nil => simp [spendAll, Step.done, taken]
  | cons first rest ih =>
    rw [spendAll, List.map_cons]
    cases found : set.get? first.outpoint with
    | none =>
      rw [spend_of_absent found, Unspent.taken_cons_of_absent found, if_neg List.not_mem_nil]
      rfl
    | some output =>
      rw [spend_of_present found, Unspent.taken_cons_of_present found]
      refine (ih _ _).trans ?_
      rw [Unspent.get?_erase]
      by_cases same : first.outpoint = point
      · simp [same]
      · simp [same, Ne.symm same]

/-- Spending in order succeeds if everything was taken, and else names what is missing. -/
theorem spendAll_result (draft : Draft) (spends : List Spend) (set : Unspent) :
    ((draft.spendAll spends set).result =
        .ok { draft with inputs := draft.inputs ++ spends.map Spend.input } ∧
      set.taken (spends.map Spend.outpoint) = spends.map Spend.outpoint) ∨
    (∃ point, (draft.spendAll spends set).result = .error (.unspent (.unknown point))) := by
  induction spends generalizing draft set with
  | nil => exact .inl ⟨by simp [spendAll, Step.done], rfl⟩
  | cons first rest ih =>
    rw [spendAll, List.map_cons, List.map_cons]
    cases found : set.get? first.outpoint with
    | none =>
      rw [spend_of_absent found]
      exact .inr ⟨first.outpoint, rfl⟩
    | some output =>
      rw [spend_of_present found, Unspent.taken_cons_of_present found]
      rcases ih { draft with inputs := draft.inputs ++ [first.input] }
        ⟨set.outputs.erase first.outpoint⟩ with ⟨result, all⟩ | ⟨point, result⟩
      · refine .inl ⟨result.trans ?_, by rw [all]⟩
        simp
      · exact .inr ⟨point, result⟩

/-- Spending in order reports what was taken. -/
theorem spentPoints_spendAll (draft : Draft) (spends : List Spend) (set : Unspent) :
    spentPoints (draft.spendAll spends set).notices = set.taken (spends.map Spend.outpoint) := by
  induction spends generalizing draft set with
  | nil => rfl
  | cons first rest ih =>
    rw [spendAll, List.map_cons]
    cases found : set.get? first.outpoint with
    | none =>
      rw [spend_of_absent found, Unspent.taken_cons_of_absent found]
      rfl
    | some output =>
      rw [spend_of_present found, Unspent.taken_cons_of_present found]
      exact congrArg (first.outpoint :: ·) (ih _ _)

/-- Paying in order adds the outputs in order. -/
theorem payAll_eq (draft : Draft) (outputs : List Output) :
    draft.payAll outputs = { draft with outputs := draft.outputs ++ outputs } := by
  unfold payAll
  induction outputs generalizing draft with
  | nil => simp
  | cons output outputs ih =>
    rw [List.foldl_cons, ih]
    simp [pay]

end Draft
end PocketLedger
