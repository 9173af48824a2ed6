import Mathlib.Data.List.Nodup
import PocketLedger.Proofs.UnspentMap

/-!
# Unspent outputs as a finite map

A set of unspent outputs answers every call as a plain map from outpoints to outputs does, call
after call, whatever fails in between. Its listing has the entries of that map in ascending order
of outpoints. No other list has, so two histories that end with the same entries cannot be told
apart by it.
-/

namespace PocketLedger

/-! ## The order of outpoints -/

/-- Bytes are compared one by one from the first. -/
theorem Bytes.compare_eq_lt_iff (left right : Bytes) :
    compare left right = .lt ↔ List.Lex (· < ·) left right := by
  induction left generalizing right with
  | nil =>
    cases right with
    | nil => simp
    | cons => exact iff_of_true List.compareLex_nil_cons .nil
  | cons first left ih =>
    cases right with
    | nil => exact ⟨nofun, nofun⟩
    | cons second right =>
      rw [List.compare_cons_cons, Ordering.then_eq_lt, Std.compare_eq_lt,
        Std.LawfulEqCmp.compare_eq_iff_eq, ih]
      constructor
      · rintro (below | ⟨rfl, later⟩)
        · exact .rel below
        · exact .cons later
      · intro lex
        cases lex with
        | rel below => exact .inl below
        | cons later => exact .inr ⟨rfl, later⟩

namespace OutPoint

/-- By the bytes of the transaction id, and by the index under one id. -/
def Precedes (left right : OutPoint) : Prop :=
  List.Lex (· < ·) left.txId.bytes right.txId.bytes ∨
    (left.txId = right.txId ∧ left.index < right.index)

/-- The order of the map is the order of the listing. -/
theorem compare_eq_lt_iff (left right : OutPoint) :
    compare left right = .lt ↔ left.Precedes right := by
  have parts : compare left right =
      (compare left.txId right.txId).then (compare left.index right.index) := rfl
  rw [parts, Ordering.then_eq_lt, Digest.compare_eq, Bytes.compare_eq_lt_iff, Std.compare_eq_lt,
    ← Digest.compare_eq, Std.LawfulEqCmp.compare_eq_iff_eq, Precedes]

/-- No outpoint precedes itself. -/
theorem not_precedes_self (point : OutPoint) : ¬ point.Precedes point := by
  have same : compare point point = .eq := Std.ReflCmp.compare_self
  rw [← compare_eq_lt_iff, same]
  nofun

/-- Of two outpoints at most one precedes the other. -/
theorem Precedes.asymm {left right : OutPoint} (before : left.Precedes right) :
    ¬ right.Precedes left := by
  rw [← compare_eq_lt_iff] at before ⊢
  exact Std.OrientedCmp.not_lt_of_lt before

end OutPoint

/-! ## Plain maps and their listings -/

/-- Outputs by outpoint, without anything said about how they are kept. -/
abbrev Contents := OutPoint → Option Output

namespace Contents

/-- A list of the entries in ascending order of outpoints. -/
structure ListedBy (contents : Contents) (entries : List (OutPoint × Output)) : Prop where
  ascending : entries.Pairwise fun left right => left.1.Precedes right.1
  mem_iff : ∀ point output, (point, output) ∈ entries ↔ contents point = some output

namespace ListedBy

variable {contents : Contents} {entries others : List (OutPoint × Output)}

/-- Every outpoint is listed once. -/
theorem nodup_points (listed : contents.ListedBy entries) : (entries.map Prod.fst).Nodup := by
  rw [List.Nodup, List.pairwise_map]
  refine listed.ascending.imp fun {left right} before same => ?_
  rw [same] at before
  exact right.1.not_precedes_self before

/-- There is one list only. -/
theorem unique (listed : contents.ListedBy entries) (otherwise : contents.ListedBy others) :
    entries = others := by
  have same : entries.Perm others := by
    refine (List.perm_ext_iff_of_nodup (List.Nodup.of_map Prod.fst listed.nodup_points)
      (List.Nodup.of_map Prod.fst otherwise.nodup_points)).mpr fun (point, output) => ?_
    rw [listed.mem_iff, otherwise.mem_iff]
  refine same.eq_of_pairwise ?_ listed.ascending otherwise.ascending
  intro left right _ _ before after
  exact absurd after before.asymm

end ListedBy
end Contents

namespace Unspent

/-- The available outputs list the contents. -/
theorem listedBy_available (set : Unspent) : Contents.ListedBy set.get? set.available where
  ascending := by
    refine List.Pairwise.imp (fun {left right} before => ?_) Std.ExtTreeMap.ordered_keys_toList
    exact (OutPoint.compare_eq_lt_iff left.1 right.1).mp before
  mem_iff := set.mem_available_iff

/-- The size is the number of available outputs. -/
theorem size_eq_length_available (set : Unspent) : set.size = set.available.length :=
  Std.ExtTreeMap.length_toList.symm

/-- The outputs of an owner are a part of the listing, in the same order. -/
theorem outputsOf_sublist (set : Unspent) (owner : Owner) :
    (set.outputsOf owner).Sublist set.available :=
  List.filter_sublist

/-- The outputs of an owner are the available ones that the owner has. -/
theorem mem_outputsOf_iff (set : Unspent) (owner : Owner) (point : OutPoint) (output : Output) :
    (point, output) ∈ set.outputsOf owner ↔ set.get? point = some output ∧ output.owner = owner := by
  rw [outputsOf, List.mem_filter, mem_available_iff, decide_eq_true_iff]

/-! ## Single entries -/

/-- A step that is refused in one case, for one reason and without any change, and otherwise
changes the entry at one outpoint. -/
structure SetsEntry {α : Type} (set : Unspent) (point : OutPoint) (entry : Option Output)
    (step : Step Unspent UnspentError α) (reason : UnspentError) (refused : Prop) : Prop where
  error_iff : ∀ error, step.result = .error error ↔ error = reason ∧ refused
  unchanged : ∀ error, step.result = .error error → step.state = set
  changed : ∀ value, step.result = .ok value → ∀ other, step.state.get? other =
    if point = other then entry else set.get? other

section SetsEntry

variable {α : Type} {set next : Unspent} {point : OutPoint} {entry : Option Output}
  {reason : UnspentError} {refused : Prop} {notices : List Notice} {value : α}

/-- A step that was refused changes nothing. -/
theorem setsEntry_of_refused (holds : refused) :
    set.SetsEntry point entry (.failed set reason : Step Unspent UnspentError α) reason refused where
  error_iff error := by simp [Step.failed, holds, eq_comm]
  unchanged _ _ := rfl
  changed := nofun

/-- A step that was not refused changes one entry. -/
theorem setsEntry_of_done (fails : ¬ refused)
    (after : ∀ other, next.get? other = if point = other then entry else set.get? other) :
    set.SetsEntry point entry ⟨next, notices, .ok value⟩ reason refused where
  error_iff error := by simp [fails]
  unchanged := nofun
  changed _ _ := after

end SetsEntry

/-- An output is refused exactly at an outpoint that is present. -/
theorem add_setsEntry (set : Unspent) (point : OutPoint) (output : Output) :
    set.SetsEntry point (some output) (set.add point output) (.duplicate point)
      (set.get? point).isSome := by
  rcases set.add_cases point output with ⟨present, added⟩ | ⟨absent, added⟩
  · rw [added]
    exact setsEntry_of_refused present
  · rw [added]
    exact setsEntry_of_done (by simp [absent]) fun other => set.get?_insert point other output

/-- A spend is refused exactly at an outpoint that is missing. -/
theorem spend_setsEntry (set : Unspent) (point : OutPoint) :
    set.SetsEntry point none (set.spend point) (.unknown point) (set.get? point = none) := by
  rcases set.spend_cases point with ⟨absent, spent⟩ | ⟨output, found, spent⟩
  · rw [spent]
    exact setsEntry_of_refused absent
  · rw [spent]
    exact setsEntry_of_done (by simp [found]) (set.get?_erase point)

/-- A spend gives the output that was there. -/
theorem get?_of_spend {set : Unspent} {point : OutPoint} {output : Output}
    (succeeded : (set.spend point).result = .ok output) : set.get? point = some output := by
  rcases set.spend_cases point with ⟨_, spent⟩ | ⟨there, found, spent⟩
  · rw [spent] at succeeded
    cases succeeded
  · rw [spent] at succeeded
    rw [found, Except.ok.inj succeeded]

/-! ## Calls -/

/-- A call that can change the outputs. -/
inductive Call where
  | add (point : OutPoint) (output : Output)
  | spend (point : OutPoint)
  | addOutputs (tx : Transaction)

/-- The answer to a call, with the output that it spent. -/
abbrev Answer := Except UnspentError (Option Output)

/-- The outputs after a call, and its answer. -/
def call (set : Unspent) : Call → Unspent × Answer
  | .add point output =>
    ((set.add point output).state, (set.add point output).result.map fun _ => none)
  | .spend point => ((set.spend point).state, (set.spend point).result.map some)
  | .addOutputs tx => ((set.addOutputs tx).state, (set.addOutputs tx).result.map fun _ => none)

/-- Where calls in order lead to, and their answers. -/
def callAll {σ : Type} (call : σ → Call → σ × Answer) (state : σ) : List Call → σ × List Answer
  | [] => (state, [])
  | first :: rest =>
    let next := call state first
    let last := callAll call next.1 rest
    (last.1, next.2 :: last.2)

/-- What can be seen of calls one by one can be seen of all of them. -/
theorem callAll_view {σ τ : Type} {call : σ → Call → σ × Answer} {seen : τ → Call → τ × Answer}
    (view : σ → τ)
    (step : ∀ state first, seen (view state) first =
      (view (call state first).1, (call state first).2))
    (state : σ) (calls : List Call) :
    callAll seen (view state) calls =
      (view (callAll call state calls).1, (callAll call state calls).2) := by
  induction calls generalizing state with
  | nil => rfl
  | cons first rest ih => simp only [callAll, step, ih]

end Unspent

namespace Contents

open Unspent (Call Answer)

/-- The map with another entry, or with none, at one outpoint. -/
def put (contents : Contents) (point : OutPoint) (entry : Option Output) : Contents :=
  fun other => if point = other then entry else contents other

/-- Add entries in order, up to the first outpoint that is present. -/
def addAll (contents : Contents) : List (OutPoint × Output) → Contents × Answer
  | [] => (contents, .ok none)
  | (point, output) :: rest =>
    match contents point with
    | some _ => (contents, .error (.duplicate point))
    | none => (contents.put point (some output)).addAll rest

/-- The map after a call, and its answer. The outputs of a transaction are under its id, numbered
in order. -/
def call (contents : Contents) : Call → Contents × Answer
  | .add point output => contents.addAll [(point, output)]
  | .spend point =>
    match contents point with
    | none => (contents, .error (.unknown point))
    | some output => (contents.put point none, .ok (some output))
  | .addOutputs tx =>
    contents.addAll (tx.outputs.mapIdx fun index output => (⟨tx.id, index.toUInt32⟩, output))

end Contents

namespace Unspent

/-- Inserting an output puts it into the contents. -/
theorem get?_insert_eq_put (set : Unspent) (point : OutPoint) (output : Output) :
    get? ⟨set.outputs.insert point output⟩ = Contents.put set.get? point (some output) :=
  funext fun other => set.get?_insert point other output

/-- Erasing an output takes it out of the contents. -/
theorem get?_erase_eq_put (set : Unspent) (point : OutPoint) :
    get? ⟨set.outputs.erase point⟩ = Contents.put set.get? point none :=
  funext fun other => set.get?_erase point other

/-- Adding outputs under consecutive indices is adding these entries to the map. -/
theorem addAll_get? (txId : Digest) (index : Nat) (outputs : List Output) (set : Unspent) :
    Contents.addAll set.get?
        (outputs.mapIdx fun offset output => (⟨txId, (index + offset).toUInt32⟩, output)) =
      ((addFrom txId index outputs set).state.get?,
        (addFrom txId index outputs set).result.map fun _ => none) := by
  induction outputs generalizing index set with
  | nil => rfl
  | cons output rest ih =>
    have shift : (fun offset output => ((⟨txId, (index + (offset + 1)).toUInt32⟩, output) :
        OutPoint × Output)) =
        fun offset output => (⟨txId, (index + 1 + offset).toUInt32⟩, output) := by
      funext offset output
      rw [Nat.add_assoc, Nat.add_comm 1]
    rw [List.mapIdx_cons, shift, Nat.add_zero, Contents.addAll, addFrom]
    rcases set.add_cases ⟨txId, index.toUInt32⟩ output with ⟨present, added⟩ | ⟨absent, added⟩
    · obtain ⟨other, found⟩ := Option.isSome_iff_exists.mp present
      rw [added, found]
      rfl
    · rw [added, absent]
      simp only [← get?_insert_eq_put, ih]
      rfl

/-- Every call does to the outputs and answers what it does to the map and answers there. -/
theorem call_get? (set : Unspent) (call : Call) :
    Contents.call set.get? call = ((set.call call).1.get?, (set.call call).2) := by
  cases call with
  | add point output =>
    rw [Contents.call, Unspent.call, Contents.addAll]
    rcases set.add_cases point output with ⟨present, added⟩ | ⟨absent, added⟩
    · obtain ⟨other, found⟩ := Option.isSome_iff_exists.mp present
      rw [added, found]
      rfl
    · rw [added, absent, get?_insert_eq_put]
      rfl
  | spend point =>
    rw [Contents.call, Unspent.call]
    rcases set.spend_cases point with ⟨absent, spent⟩ | ⟨output, found, spent⟩
    · rw [spent, absent]
      rfl
    · rw [spent, found, get?_erase_eq_put]
      rfl
  | addOutputs tx =>
    have entries := addAll_get? tx.id 0 tx.outputs set
    simp only [Nat.zero_add] at entries
    exact entries

/-- What is left by calls in order, from no outputs on. -/
def after (calls : List Call) : Unspent := (callAll call empty calls).1

/-- Calls in order do to the outputs and answer what they do to the map and answer there. -/
theorem callAll_get? (calls : List Call) :
    callAll Contents.call (fun _ => none) calls =
      ((after calls).get?, (callAll call empty calls).2) := by
  have nothing : empty.get? = fun _ => none := funext get?_empty
  rw [← nothing]
  exact callAll_view get? call_get? empty calls

/-- After any calls the outputs are those of a plain map on which the same calls were made with
the same answers. Adding and spending fail at a present and at a missing outpoint only, without
any change, and otherwise change the entry of that outpoint alone. The listing has every entry
once and in ascending order, agrees with all lookups, and contains the outputs of each owner in
the same order. It is the same after any other calls that leave the same entries. -/
theorem behaves_as_map (calls : List Call) :
    let set := after calls
    callAll Contents.call (fun _ => none) calls = (set.get?, (callAll call empty calls).2) ∧
    (∀ point output,
      (∀ error, (set.add point output).result = .error error ↔
        error = .duplicate point ∧ (set.get? point).isSome) ∧
      (∀ error, (set.add point output).result = .error error →
        (set.add point output).state = set) ∧
      ((set.add point output).result = .ok () → ∀ other,
        (set.add point output).state.get? other =
          if point = other then some output else set.get? other)) ∧
    (∀ point,
      (∀ error, (set.spend point).result = .error error ↔
        error = .unknown point ∧ set.get? point = none) ∧
      (∀ error, (set.spend point).result = .error error → (set.spend point).state = set) ∧
      ∀ output, (set.spend point).result = .ok output → set.get? point = some output ∧
        ∀ other, (set.spend point).state.get? other =
          if point = other then none else set.get? other) ∧
    Contents.ListedBy set.get? set.available ∧
    (set.available.map Prod.fst).Nodup ∧
    (∀ point, set.contains point = (set.get? point).isSome) ∧
    set.size = set.available.length ∧
    (∀ owner, (set.outputsOf owner).Sublist set.available ∧
      ∀ point output, (point, output) ∈ set.outputsOf owner ↔
        (point, output) ∈ set.available ∧ output.owner = owner) ∧
    ∀ others, (∀ point, (after others).get? point = set.get? point) →
      (after others).available = set.available := by
  intro set
  have listed := set.listedBy_available
  refine ⟨callAll_get? calls, ?_, ?_, listed, listed.nodup_points, set.contains_eq,
    set.size_eq_length_available, ?_, ?_⟩
  · intro point output
    have sets := set.add_setsEntry point output
    exact ⟨sets.error_iff, sets.unchanged, sets.changed ()⟩
  · intro point
    have sets := set.spend_setsEntry point
    exact ⟨sets.error_iff, sets.unchanged, fun output spent =>
      ⟨get?_of_spend spent, sets.changed output spent⟩⟩
  · intro owner
    refine ⟨set.outputsOf_sublist owner, fun point output => ?_⟩
    rw [set.mem_available_iff, set.mem_outputsOf_iff]
  · intro others same
    have listedThere := (after others).listedBy_available
    rw [funext same] at listedThere
    exact listedThere.unique listed

end Unspent
end PocketLedger
