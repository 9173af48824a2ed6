import PocketLedger.Proofs.Registration

/-!
# What an ordinary transaction does

An ordinary transaction takes the outputs it spends one by one out of the unspent set. The first
that it cannot take, since it is missing or was taken a moment ago, ends it there: what was taken
is gone, and nothing else has happened. If it can take all of them, the transaction is made and
what remains to be done is to register it.
-/

namespace PocketLedger

/-! ## The first spend that cannot be made -/

namespace Unspent

/-- The outpoint at a position cannot be spent in its turn: it is not present, or it is in the
list before. -/
def Blocked (set : Unspent) (points : List OutPoint) (position : Nat) (point : OutPoint) : Prop :=
  points[position]? = some point ∧ (set.get? point = none ∨ point ∈ points.take position)

/-- The first position that is blocked, and the outpoint there. -/
structure FirstBlocked (set : Unspent) (points : List OutPoint) (position : Nat)
    (point : OutPoint) : Prop where
  blocked : set.Blocked points position point
  free_before : ∀ earlier < position, ∀ other, ¬ set.Blocked points earlier other

/-- Every outpoint can be spent in its turn. -/
def Free (set : Unspent) (points : List OutPoint) : Prop :=
  ∀ position point, ¬ set.Blocked points position point

section Cons

variable (set : Unspent) (first : OutPoint) (rest : List OutPoint)

theorem blocked_zero_iff (point : OutPoint) :
    set.Blocked (first :: rest) 0 point ↔ first = point ∧ set.get? point = none := by
  simp [Blocked]

/-- Once the first outpoint is spent, the others find it missing. -/
theorem blocked_succ_iff (position : Nat) (point : OutPoint) :
    set.Blocked (first :: rest) (position + 1) point ↔
      Blocked ⟨set.outputs.erase first⟩ rest position point := by
  rw [Blocked, Blocked, List.getElem?_cons_succ, List.take_succ_cons, List.mem_cons, get?_erase]
  by_cases same : first = point
  · simp [same]
  · simp [same, Ne.symm same]

variable {set first rest}

theorem isSome_of_not_blocked (free : ¬ set.Blocked (first :: rest) 0 first) :
    (set.get? first).isSome := by
  rw [blocked_zero_iff, and_iff_right rfl] at free
  exact Option.isSome_iff_ne_none.mpr free

theorem FirstBlocked.succ {position : Nat} {point : OutPoint}
    (blocks : set.FirstBlocked (first :: rest) (position + 1) point) :
    (set.get? first).isSome ∧ FirstBlocked ⟨set.outputs.erase first⟩ rest position point := by
  refine ⟨isSome_of_not_blocked (blocks.free_before 0 (Nat.zero_lt_succ position) first), ?_, ?_⟩
  · exact (set.blocked_succ_iff first rest position point).mp blocks.blocked
  · intro earlier before other
    rw [← blocked_succ_iff]
    exact blocks.free_before (earlier + 1) (Nat.succ_lt_succ before) other

/-- What is blocked first after an outpoint that can be spent. -/
theorem FirstBlocked.cons (present : (set.get? first).isSome) {position : Nat} {point : OutPoint}
    (blocks : FirstBlocked ⟨set.outputs.erase first⟩ rest position point) :
    set.FirstBlocked (first :: rest) (position + 1) point := by
  constructor
  case blocked => exact (set.blocked_succ_iff first rest position point).mpr blocks.blocked
  case free_before =>
    intro earlier before other
    cases earlier with
    | zero =>
      rw [blocked_zero_iff]
      rintro ⟨rfl, absent⟩
      rw [absent] at present
      cases present
    | succ earlier =>
      rw [blocked_succ_iff]
      exact blocks.free_before earlier (Nat.lt_of_succ_lt_succ before) other

theorem free_cons_iff :
    set.Free (first :: rest) ↔
      (set.get? first).isSome ∧ Free ⟨set.outputs.erase first⟩ rest := by
  constructor
  · intro free
    refine ⟨isSome_of_not_blocked (free 0 first), fun position point => ?_⟩
    rw [← blocked_succ_iff]
    exact free (position + 1) point
  · rintro ⟨present, free⟩ position point
    cases position with
    | zero =>
      rw [blocked_zero_iff]
      rintro ⟨rfl, absent⟩
      rw [absent] at present
      cases present
    | succ position =>
      rw [blocked_succ_iff]
      exact free position point

end Cons

/-- All outpoints can be spent in their turn, or one is the first that is blocked. -/
theorem free_or_firstBlocked (set : Unspent) (points : List OutPoint) :
    set.Free points ∨ ∃ position point, set.FirstBlocked points position point := by
  induction points generalizing set with
  | nil => exact .inl fun position point blocked => by cases blocked.1
  | cons first rest ih =>
    cases found : set.get? first with
    | none => exact .inr ⟨0, first, (set.blocked_zero_iff _ _ _).mpr ⟨rfl, found⟩, nofun⟩
    | some output =>
      have present : (set.get? first).isSome := by rw [found]; rfl
      rcases ih ⟨set.outputs.erase first⟩ with free | ⟨position, point, blocks⟩
      · exact .inl (free_cons_iff.mpr ⟨present, free⟩)
      · exact .inr ⟨position + 1, point, blocks.cons present⟩

/-- Outpoints can be spent in their turn exactly if all are present and no two are the same. -/
theorem free_iff (set : Unspent) (points : List OutPoint) :
    set.Free points ↔ points.Nodup ∧ ∀ point ∈ points, (set.get? point).isSome := by
  induction points generalizing set with
  | nil => simp [Free, Blocked]
  | cons first rest ih =>
    have others : ∀ point, (get? ⟨set.outputs.erase first⟩ point).isSome ↔
        first ≠ point ∧ (set.get? point).isSome := by
      intro point
      rw [get?_erase]
      split
      next same => simp [same]
      next other => simp [other]
    rw [free_cons_iff, ih, List.nodup_cons, List.forall_mem_cons]
    simp only [others]
    constructor
    · rintro ⟨present, once, apart⟩
      exact ⟨⟨fun again => (apart first again).1 rfl, once⟩, present, fun point mem =>
        (apart point mem).2⟩
    · rintro ⟨⟨new, once⟩, present, rests⟩
      refine ⟨present, once, fun point mem => ⟨?_, rests point mem⟩⟩
      rintro rfl
      exact new mem

/-- After outpoints that can be spent, one that is missing or among them is the first blocked. -/
theorem Free.firstBlocked {set : Unspent} {points : List OutPoint} (free : set.Free points)
    {point : OutPoint} (cannot : set.get? point = none ∨ point ∈ points) (rest : List OutPoint) :
    set.FirstBlocked (points ++ point :: rest) points.length point := by
  constructor
  case blocked =>
    refine ⟨?_, ?_⟩
    · rw [List.getElem?_append_right (Nat.le_refl _), Nat.sub_self, List.getElem?_cons_zero]
    · rw [List.take_left]
      exact cannot
  case free_before =>
    rintro earlier before other ⟨found, reason⟩
    rw [List.getElem?_append_left before] at found
    rw [List.take_append_of_le_length (Nat.le_of_lt before)] at reason
    exact free earlier other ⟨found, reason⟩

end Unspent

namespace Draft

/-- Spending in order fails at the first outpoint that is blocked, and takes those before it. -/
theorem spendAll_of_firstBlocked {spends : List Spend} {set : Unspent} {position : Nat}
    {point : OutPoint} (blocks : set.FirstBlocked (spends.map Spend.outpoint) position point)
    (draft : Draft) :
    (draft.spendAll spends set).result = .error (.unspent (.unknown point)) ∧
      set.taken (spends.map Spend.outpoint) = (spends.map Spend.outpoint).take position := by
  induction spends generalizing draft set position with
  | nil => exact absurd blocks.blocked.1 (by simp)
  | cons first rest ih =>
    rw [List.map_cons] at blocks ⊢
    rw [spendAll]
    cases position with
    | zero =>
      obtain ⟨same, absent⟩ := (set.blocked_zero_iff _ _ _).mp blocks.blocked
      rw [← same] at absent ⊢
      rw [spend_of_absent absent, Unspent.taken_cons_of_absent absent]
      exact ⟨rfl, rfl⟩
    | succ position =>
      obtain ⟨present, later⟩ := blocks.succ
      obtain ⟨output, found⟩ := Option.isSome_iff_exists.mp present
      rw [spend_of_present found, Unspent.taken_cons_of_present found]
      obtain ⟨result, taken⟩ := ih later { draft with inputs := draft.inputs ++ [first.input] }
      exact ⟨result, by rw [taken, List.take_succ_cons]⟩

/-- Spending in order takes everything if nothing is blocked. -/
theorem spendAll_of_free {spends : List Spend} {set : Unspent}
    (free : set.Free (spends.map Spend.outpoint)) (draft : Draft) :
    (draft.spendAll spends set).result =
        .ok { draft with inputs := draft.inputs ++ spends.map Spend.input } ∧
      set.taken (spends.map Spend.outpoint) = spends.map Spend.outpoint := by
  induction spends generalizing draft set with
  | nil => exact ⟨by simp [spendAll, Step.done], rfl⟩
  | cons first rest ih =>
    rw [List.map_cons] at free
    rw [spendAll, List.map_cons, List.map_cons]
    obtain ⟨present, later⟩ := Unspent.free_cons_iff.mp free
    obtain ⟨output, found⟩ := Option.isSome_iff_exists.mp present
    rw [spend_of_present found, Unspent.taken_cons_of_present found]
    obtain ⟨result, taken⟩ := ih later { draft with inputs := draft.inputs ++ [first.input] }
    refine ⟨result.trans ?_, by rw [taken]⟩
    simp

/-- Spends of which none is of the null outpoint make a transaction. -/
theorem build_of_spends {spends : List Spend} (nonempty : spends ≠ [])
    (notNull : ∀ spend ∈ spends, spend.outpoint ≠ OutPoint.null) (outputs : List Output) :
    build ⟨1, spends.map Spend.input, outputs, 0⟩ =
      .ok ⟨1, spends.map Spend.input, outputs, 0⟩ := by
  refine build_of_spending (by simpa using nonempty) fun input mem => ?_
  obtain ⟨spend, spendMem, rfl⟩ := List.mem_map.mp mem
  rw [Input.isGeneration, OutPoint.isNull, beq_eq_false_iff_ne]
  exact notNull spend spendMem

end Draft

/-! ## The whole operation -/

namespace Session

/-- A blocked spend fails the whole, and nothing but the outputs has changed. -/
theorem ordinary_of_firstBlocked (session : Session) (name : String) {spends : List Spend}
    (outputs : List Output) {position : Nat} {point : OutPoint}
    (blocks : session.unspent.FirstBlocked (spends.map Spend.outpoint) position point) :
    (session.ordinary name spends outputs).result =
        .error (.transaction (.unspent (.unknown point))) ∧
      (session.ordinary name spends outputs).state =
        { session with unspent := (Draft.empty.spendAll spends session.unspent).state } := by
  have result := (Draft.spendAll_of_firstBlocked blocks Draft.empty).1
  rcases session.ordinary_cases name spends outputs with
    ⟨rfl, _⟩ | ⟨other, missing, failed⟩ | ⟨_, succeeded, _⟩
  · cases result
  · rw [result] at missing
    cases missing
    rw [failed]
    exact ⟨rfl, rfl⟩
  · rw [result] at succeeded
    cases succeeded

/-- If all spends can be made and none of them is of the null outpoint, no input generates value,
and the transaction is made and registered. -/
theorem ordinary_of_spending (session : Session) (name : String) {spends : List Spend}
    (nonempty : spends ≠ []) (outputs : List Output)
    (free : session.unspent.Free (spends.map Spend.outpoint))
    (notNull : ∀ spend ∈ spends, spend.outpoint ≠ OutPoint.null) :
    let left := { session with unspent := (Draft.empty.spendAll spends session.unspent).state }
    let named : NamedTransaction := ⟨name, ⟨1, spends.map Spend.input, outputs, 0⟩⟩
    (session.ordinary name spends outputs).state = (left.add named).state ∧
      (session.ordinary name spends outputs).result =
        (left.add named).result.map fun _ => named := by
  intro left named
  have result := (Draft.spendAll_of_free free Draft.empty).1
  have build : Draft.build ⟨1, spends.map Spend.input, outputs, 0⟩ = .ok named.transaction :=
    Draft.build_of_spends nonempty notNull outputs
  rcases session.ordinary_cases name spends outputs with
    ⟨nothing, _⟩ | ⟨other, missing, _⟩ | ⟨_, _, _, completed⟩
  · exact absurd nothing nonempty
  · rw [result] at missing
    cases missing
  · have completion := complete_of_build build left name
    rw [completed]
    constructor
    · exact congrArg Step.state completion
    · exact congrArg Step.result completion

/-- If all spends can be made and none of them is of the null outpoint, the transaction is
built. -/
theorem built_ordinary_of_spending (session : Session) (name : String) {spends : List Spend}
    (nonempty : spends ≠ []) (outputs : List Output)
    (free : session.unspent.Free (spends.map Spend.outpoint))
    (notNull : ∀ spend ∈ spends, spend.outpoint ≠ OutPoint.null) :
    Occurrence.built ⟨session, .ordinary name spends outputs⟩ =
      [⟨1, spends.map Spend.input, outputs, 0⟩] := by
  have result := (Draft.spendAll_of_free free Draft.empty).1
  rcases session.draftOrdinary_cases name spends outputs with
    ⟨nothing, _⟩ | ⟨other, missing, _⟩ | ⟨_, _, _, draft⟩
  · exact absurd nothing nonempty
  · rw [result] at missing
    cases missing
  · rw [built_ordinary_of_ok (by rw [draft])]
    exact congrArg (fun built => built.toOption.toList)
      (Draft.build_of_spends nonempty notNull outputs)

/-- A call that names a present outpoint twice spends it once, and builds nothing. -/
theorem ordinary_of_twice (session : Session) (name : String) (spend : Spend)
    (present : (session.unspent.get? spend.outpoint).isSome) (outputs : List Output) :
    Occurrence.built ⟨session, .ordinary name [spend, spend] outputs⟩ = [] ∧
      Occurrence.spent ⟨session, .ordinary name [spend, spend] outputs⟩ = [spend.outpoint] := by
  refine ⟨built_ordinary_of_repeated _ _ _ (by simp), ?_⟩
  have free : session.unspent.Free [spend.outpoint] := by
    rw [Unspent.free_iff]
    simp [present]
  have blocked : session.unspent.FirstBlocked ([spend, spend].map Spend.outpoint) 1
      spend.outpoint := free.firstBlocked (.inr List.mem_cons_self) []
  rw [spent_ordinary]
  exact (Draft.spendAll_of_firstBlocked blocked Draft.empty).2

/-- The spends that can be made are of present outpoints, so none is of the null outpoint if that
is not there. -/
theorem spends_notNull {session : Session} (notNull : session.unspent.get? OutPoint.null = none)
    {spends : List Spend} (free : session.unspent.Free (spends.map Spend.outpoint)) :
    ∀ spend ∈ spends, spend.outpoint ≠ OutPoint.null := by
  intro spend mem isNull
  have present := ((session.unspent.free_iff _).mp free).2 _ (List.mem_map_of_mem mem)
  rw [isNull, notNull] at present
  cases present

/-- If all spends can be made, the transaction is made and registered. -/
theorem ordinary_of_free {session : Session} (notNull : session.unspent.get? OutPoint.null = none)
    (name : String) {spends : List Spend} (nonempty : spends ≠ []) (outputs : List Output)
    (free : session.unspent.Free (spends.map Spend.outpoint)) :
    let left := { session with unspent := (Draft.empty.spendAll spends session.unspent).state }
    let named : NamedTransaction := ⟨name, ⟨1, spends.map Spend.input, outputs, 0⟩⟩
    (session.ordinary name spends outputs).state = (left.add named).state ∧
      (session.ordinary name spends outputs).result =
        (left.add named).result.map fun _ => named :=
  session.ordinary_of_spending name nonempty outputs free (spends_notNull notNull free)

/-- What is left by spends of which none was blocked takes the outputs of a transaction, unless
something of its id is there. -/
theorem add_to_left {session left : Session} {points : List OutPoint} (named : NamedTransaction)
    (spent : ∀ other, left.unspent.get? other =
      if other ∈ points then none else session.unspent.get? other)
    (numbered : named.transaction.outputs.length ≤ UInt32.size)
    (absent : ∀ index, ⟨named.transaction.id, index⟩ ∉ points →
      session.unspent.get? ⟨named.transaction.id, index⟩ = none) :
    (left.add named).result = .ok () ∧
      left.unspent.AddsFirst named.transaction named.transaction.outputs.length
        (left.add named).state.unspent := by
  have added : (left.unspent.addOutputs named.transaction).result = .ok () := by
    refine (Unspent.addOutputs_ok_iff _ _).mpr ⟨numbered, fun index _ => ?_⟩
    rw [spent]
    split
    next => rfl
    next kept => exact absent index kept
  obtain ⟨result, unspent⟩ := left.add_of_ok named added
  rw [unspent]
  exact ⟨result, Unspent.addsFirst_of_ok added⟩

/-- An ordinary transaction fails at the first spend that is missing or repeated, and the spends
before it stay made while chain, listeners and count of generations are as they were. Otherwise
it makes the transaction of the given inputs and outputs in order, and goes on to register it in
what is left. If nothing left is under its id, that succeeds and adds exactly its outputs. -/
theorem ordinary_spends_in_order (session : Session) (name : String) (spends : List Spend)
    (outputs : List Output) (notNull : session.unspent.contains OutPoint.null = false)
    (nonempty : spends ≠ []) (numbered : outputs.length ≤ UInt32.size) :
    let set := session.unspent
    let points := spends.map Spend.outpoint
    let step := session.ordinary name spends outputs
    let tx : Transaction :=
      ⟨1, spends.map fun spend => ⟨spend.outpoint, spend.unlockingScript, spend.sequence⟩,
        outputs, 0⟩
    (∀ position point, set.FirstBlocked points position point →
      step.result = .error (.transaction (.unspent (.unknown point))) ∧
      (∀ other, step.state.unspent.get? other =
        if other ∈ points.take position then none else set.get? other) ∧
      step.state = { session with unspent := step.state.unspent }) ∧
    (set.Free points →
      (∃ left : Session, left = { session with unspent := left.unspent } ∧
        (∀ other, left.unspent.get? other = if other ∈ points then none else set.get? other) ∧
        step.state = (left.add ⟨name, tx⟩).state ∧
        step.result = (left.add ⟨name, tx⟩).result.map fun _ => ⟨name, tx⟩) ∧
      ((∀ index, ⟨tx.id, index⟩ ∉ points → set.get? ⟨tx.id, index⟩ = none) →
        step.result = .ok ⟨name, tx⟩ ∧
        ∀ point, step.state.unspent.get? point =
          if point.txId = tx.id ∧ point.index.toNat < outputs.length then
            outputs[point.index.toNat]?
          else if point ∈ points then none else set.get? point)) := by
  intro set points step tx
  have noNull : set.get? OutPoint.null = none := by
    rw [Unspent.contains_eq, Option.isSome_eq_false_iff] at notNull
    exact Option.isNone_iff_eq_none.mp notNull
  let left := { session with unspent := (Draft.empty.spendAll spends set).state }
  have spent : ∀ other, left.unspent.get? other =
      if other ∈ set.taken points then none else set.get? other :=
    Draft.empty.get?_spendAll spends set
  constructor
  · intro position point blocks
    obtain ⟨result, state⟩ := session.ordinary_of_firstBlocked name outputs blocks
    have afterwards : step.state = left := state
    rw [(Draft.spendAll_of_firstBlocked blocks Draft.empty).2] at spent
    rw [afterwards]
    exact ⟨result, spent, rfl⟩
  · intro free
    obtain ⟨state, result⟩ := ordinary_of_free noNull name nonempty outputs free
    rw [(Draft.spendAll_of_free free Draft.empty).2] at spent
    refine ⟨⟨left, rfl, spent, state, result⟩, fun absent => ?_⟩
    let named : NamedTransaction := ⟨name, tx⟩
    obtain ⟨added, first⟩ := add_to_left named spent numbered absent
    constructor
    · exact result.trans (congrArg (Except.map fun _ => named) added)
    · intro point
      have unspent : step.state.unspent = (left.add named).state.unspent :=
        congrArg Session.unspent state
      rw [unspent, first, spent]

/-- Two outputs are spent by one transaction. Another one spends them too and then names the first
of them again. -/
theorem ordinary_spends_in_order_once_and_again :
    let owner := Owner.address "o"
    let first : OutPoint := ⟨Digest.zero, 0⟩
    let second : OutPoint := ⟨Digest.zero, 1⟩
    let set : Unspent := ⟨((∅ : Std.ExtTreeMap OutPoint Output).insert first ⟨5, owner⟩).insert second
      ⟨7, owner⟩⟩
    let session : Session := { start .default with unspent := set }
    let both : List Spend := [⟨first, [], 1⟩, ⟨second, [7], 2⟩]
    let again : List Spend := both ++ [⟨first, [], 3⟩]
    let tx : Transaction := ⟨1, [⟨first, [], 1⟩, ⟨second, [7], 2⟩], [⟨12, owner⟩], 0⟩
    set.contains OutPoint.null = false ∧
      (session.ordinary "a" both [⟨12, owner⟩]).result = .ok ⟨"a", tx⟩ ∧
      (session.ordinary "a" both [⟨12, owner⟩]).state.unspent.get? ⟨tx.id, 0⟩ = some ⟨12, owner⟩ ∧
      (session.ordinary "b" again []).result =
        .error (.transaction (.unspent (.unknown first))) ∧
      (session.ordinary "b" again []).state.unspent.get? second = none := by
  intro owner first second set session both again tx
  have found : ∀ point, set.get? point = if second = point then some ⟨7, owner⟩ else
      if first = point then some ⟨5, owner⟩ else none := by
    intro point
    rw [Unspent.get?_insert, Unspent.get?_insert ⟨∅⟩]
    rfl
  have notNull : set.contains OutPoint.null = false := by
    rw [Unspent.contains_eq, found]
    rfl
  have free : session.unspent.Free (both.map Spend.outpoint) := by
    refine (session.unspent.free_iff _).mpr ⟨?_, ?_⟩
    · simp [both, first, second]
    · simp only [both, List.map_cons, List.map_nil, List.forall_mem_cons]
      exact ⟨by rw [found]; rfl, by rw [found]; rfl, nofun⟩
  have nothingLeft : ∀ index, ⟨tx.id, index⟩ ∉ both.map Spend.outpoint →
      session.unspent.get? ⟨tx.id, index⟩ = none := by
    intro index kept
    simp only [both, List.map_cons, List.map_nil, List.mem_cons, List.not_mem_nil, or_false,
      not_or] at kept
    rw [found, if_neg (Ne.symm kept.2), if_neg (Ne.symm kept.1)]
  have blocks : session.unspent.FirstBlocked (again.map Spend.outpoint) 2 first :=
    free.firstBlocked (.inr List.mem_cons_self) []
  obtain ⟨_, made⟩ := ordinary_spends_in_order session "a" both [⟨12, owner⟩] notNull
    (List.cons_ne_nil _ _) (by decide)
  obtain ⟨result, states⟩ := (made free).2 nothingLeft
  obtain ⟨fails, _⟩ := ordinary_spends_in_order session "b" again [] notNull
    (List.cons_ne_nil _ _) (by decide)
  obtain ⟨error, gone, _⟩ := fails 2 first blocks
  refine ⟨notNull, result, ?_, error, ?_⟩
  · rw [states]
    exact if_pos ⟨rfl, Nat.zero_lt_one⟩
  · rw [gone]
    exact if_pos (List.mem_cons_of_mem _ List.mem_cons_self)

end Session
end PocketLedger
