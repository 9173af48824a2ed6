import Mathlib.Algebra.BigOperators.Group.List.Basic
import Mathlib.Algebra.GroupWithZero.Nat
import PocketLedger.Proofs.OrdinaryTransactions
import PocketLedger.Proofs.UnspentListing

/-!
# Balances

A balance is a sum of words, taken from left to right, and no word if it grows too large on the
way. What an owner has is counted here without such a bound, as `Unspent.holdings`, and the
balance is that number whenever it is a word. The holdings depend on the available outputs and
not on their order, so it can be told what every operation of a session does to them: outputs
that are spent take their amounts away, and new outputs add theirs.
-/

namespace PocketLedger

/-! ## Sums of amounts -/

namespace Amount

/-- The sum of amounts without any bound. -/
def exactSum (amounts : List UInt64) : Nat := (amounts.map UInt64.toNat).sum

@[simp]
theorem exactSum_nil : exactSum [] = 0 := rfl

@[simp]
theorem exactSum_cons (amount : UInt64) (rest : List UInt64) :
    exactSum (amount :: rest) = amount.toNat + exactSum rest :=
  List.sum_cons

/-- A sum on top of a total is the exact one, if that is a word. -/
theorem sumFrom_eq_ok_iff (total : UInt64) (amounts : List UInt64) (value : UInt64) :
    sumFrom total amounts = .ok value ↔ value.toNat = total.toNat + exactSum amounts := by
  induction amounts generalizing total with
  | nil =>
    rw [sumFrom, Except.ok.injEq, exactSum_nil, Nat.add_zero, UInt64.toNat_inj]
    exact eq_comm
  | cons amount rest ih =>
    have word := value.toNat_lt_size
    rw [sumFrom, add, exactSum_cons]
    split_ifs with fits
    · have next : (total + amount).toNat = total.toNat + amount.toNat := by
        rw [UInt64.toNat_add]
        exact Nat.mod_eq_of_lt fits
      rw [ih, next, Nat.add_assoc]
    · refine ⟨nofun, fun equal => ?_⟩
      omega

/-- A sum is given exactly if it is the exact one. -/
theorem sum_eq_ok_iff (amounts : List UInt64) (value : UInt64) :
    sum amounts = .ok value ↔ value.toNat = exactSum amounts := by
  rw [sum, sumFrom_eq_ok_iff]
  simp

/-- A sum is refused exactly if the exact one is no word. -/
theorem sum_eq_error_iff (amounts : List UInt64) :
    sum amounts = .error .overflow ↔ UInt64.size ≤ exactSum amounts := by
  have sums := sum_eq_ok_iff amounts
  cases result : sum amounts with
  | ok value =>
    have equal := (sums value).mp result
    have word := value.toNat_lt_size
    refine ⟨nofun, fun large => ?_⟩
    omega
  | error error =>
    refine iff_of_true rfl (Nat.le_of_not_lt fun small => ?_)
    have fits := (sums (UInt64.ofNatLT (exactSum amounts) small)).mpr (by simp)
    rw [result] at fits
    cases fits

end Amount

/-! ## What outputs hold for an owner -/

/-- What one output holds for an owner. -/
def Output.share (output : Output) (owner : Owner) : Nat :=
  if output.owner = owner then output.amount.toNat else 0

/-- The exact sum of the outputs that are an owner's. -/
def heldFor (owner : Owner) (outputs : List Output) : Nat :=
  Amount.exactSum ((outputs.filter fun output => output.owner = owner).map Output.amount)

@[simp]
theorem heldFor_nil (owner : Owner) : heldFor owner [] = 0 := rfl

theorem heldFor_cons (owner : Owner) (output : Output) (rest : List Output) :
    heldFor owner (output :: rest) = output.share owner + heldFor owner rest := by
  by_cases same : output.owner = owner <;> simp [heldFor, Output.share, same]

/-- What is held does not depend on the order of the outputs. -/
theorem heldFor_perm {first second : List Output} (same : first.Perm second) (owner : Owner) :
    heldFor owner first = heldFor owner second :=
  (((same.filter _).map _).map _).sum_eq

namespace Unspent

/-- The exact sum of the available outputs of an owner. -/
def holdings (set : Unspent) (owner : Owner) : Nat :=
  heldFor owner (set.available.map Prod.snd)

/-- The amounts that the balance of an owner is the sum of. -/
theorem exactSum_outputsOf (set : Unspent) (owner : Owner) :
    Amount.exactSum ((set.outputsOf owner).map fun entry => entry.2.amount) =
      set.holdings owner := by
  rw [outputsOf, holdings, heldFor, List.filter_map, List.map_map]
  rfl

/-- One more entry is one more in the listing, wherever that is. -/
theorem available_perm {small large : Unspent} {point : OutPoint} {output : Output}
    (absent : small.get? point = none)
    (gets : ∀ other, large.get? other = if point = other then some output else small.get? other) :
    large.available.Perm ((point, output) :: small.available) := by
  have once : ∀ set : Unspent, set.available.Nodup :=
    fun set => .of_map Prod.fst set.listedBy_available.nodup_points
  have isNew : (point, output) ∉ small.available := by
    rw [mem_available_iff, absent]
    nofun
  refine (List.perm_ext_iff_of_nodup (once large) (List.nodup_cons.mpr ⟨isNew, once small⟩)).mpr ?_
  rintro ⟨other, found⟩
  rw [mem_available_iff, gets, List.mem_cons, mem_available_iff, Prod.mk.injEq]
  split_ifs with same
  · subst same
    simp [absent, eq_comm]
  · simp [Ne.symm same]

/-- One more entry adds what it holds. -/
theorem holdings_of_entry {small large : Unspent} {point : OutPoint} {output : Output}
    (absent : small.get? point = none)
    (gets : ∀ other, large.get? other = if point = other then some output else small.get? other)
    (owner : Owner) : large.holdings owner = output.share owner + small.holdings owner := by
  have entries := (available_perm absent gets).map Prod.snd
  rw [holdings, heldFor_perm entries, List.map_cons, heldFor_cons]
  rfl

/-- A new output adds its share to the holdings. -/
theorem holdings_insert {set : Unspent} {point : OutPoint} (absent : set.get? point = none)
    (output : Output) (owner : Owner) :
    holdings ⟨set.outputs.insert point output⟩ owner =
      output.share owner + set.holdings owner :=
  holdings_of_entry absent (fun other => set.get?_insert point other output) owner

/-- An output that is taken out takes its share with it. -/
theorem holdings_erase {set : Unspent} {point : OutPoint} {output : Output}
    (found : set.get? point = some output) (owner : Owner) :
    set.holdings owner =
      output.share owner + holdings ⟨set.outputs.erase point⟩ owner := by
  apply holdings_of_entry
  · rw [get?_erase, if_pos rfl]
  · intro other
    rw [get?_erase]
    split_ifs with same
    · rw [← same, found]
    · rfl

/-- Outputs that could be added add what they hold. -/
theorem holdings_addFrom {txId : Digest} {index : Nat} {outputs : List Output} {set : Unspent}
    (succeeded : (addFrom txId index outputs set).result = .ok ()) (owner : Owner) :
    (addFrom txId index outputs set).state.holdings owner =
      set.holdings owner + heldFor owner outputs := by
  induction outputs generalizing index set with
  | nil => rfl
  | cons output rest ih =>
    rw [addFrom] at succeeded ⊢
    rcases set.add_cases ⟨txId, index.toUInt32⟩ output with ⟨_, step⟩ | ⟨absent, step⟩
    · rw [step] at succeeded
      cases succeeded
    · rw [step] at succeeded ⊢
      calc (addFrom txId (index + 1) rest _).state.holdings owner
        _ = holdings ⟨set.outputs.insert ⟨txId, index.toUInt32⟩ output⟩ owner +
            heldFor owner rest := ih succeeded
        _ = output.share owner + set.holdings owner + heldFor owner rest := by
          rw [holdings_insert absent]
        _ = set.holdings owner + heldFor owner (output :: rest) := by
          rw [heldFor_cons]
          omega

/-- The outputs at outpoints that are all present. -/
theorem exists_outputs_at {set : Unspent} {points : List OutPoint}
    (present : ∀ point ∈ points, (set.get? point).isSome) :
    ∃ outputs : List Output, points.map set.get? = outputs.map some := by
  induction points with
  | nil => exact ⟨[], rfl⟩
  | cons first rest ih =>
    rw [List.forall_mem_cons] at present
    obtain ⟨output, found⟩ := Option.isSome_iff_exists.mp present.1
    obtain ⟨outputs, others⟩ := ih present.2
    exact ⟨output :: outputs, by rw [List.map_cons, found, others, List.map_cons]⟩

/-- Taking an outpoint leaves what is taken after it in its place. -/
theorem map_get?_taken_erase (set : Unspent) (first : OutPoint) (rest : List OutPoint) :
    (taken ⟨set.outputs.erase first⟩ rest).map (get? ⟨set.outputs.erase first⟩) =
      (taken ⟨set.outputs.erase first⟩ rest).map set.get? := by
  apply List.map_congr_left
  intro point mem
  have present := isSome_of_mem_taken mem
  rw [get?_erase] at present ⊢
  split_ifs at present ⊢ with same
  · cases present
  · rfl

end Unspent

/-- Spending in order takes away what was held by what was taken. -/
theorem Draft.holdings_spendAll (draft : Draft) (spends : List Spend) (set : Unspent)
    {spent : List Output}
    (outputs : (set.taken (spends.map Spend.outpoint)).map set.get? = spent.map some)
    (owner : Owner) :
    set.holdings owner =
      (draft.spendAll spends set).state.holdings owner + heldFor owner spent := by
  induction spends generalizing draft set spent with
  | nil =>
    obtain rfl : spent = [] := by simpa [Unspent.taken] using outputs.symm
    rfl
  | cons first rest ih =>
    rw [List.map_cons] at outputs
    rw [spendAll]
    cases found : set.get? first.outpoint with
    | none =>
      rw [Unspent.taken_cons_of_absent found] at outputs
      obtain rfl : spent = [] := by simpa using outputs.symm
      rw [spend_of_absent found]
      rfl
    | some output =>
      rw [Unspent.taken_cons_of_present found, List.map_cons, found] at outputs
      obtain ⟨others, rfl⟩ : ∃ others, spent = output :: others := by
        cases spent with
        | nil => cases outputs
        | cons head others => exact ⟨others, by rw [Option.some.inj (List.cons.inj outputs).1]⟩
      have later := (Unspent.map_get?_taken_erase set _ _).trans (List.cons.inj outputs).2
      have after := ih { draft with inputs := draft.inputs ++ [first.input] } _ later
      rw [spend_of_present found, Unspent.holdings_erase found, after, heldFor_cons]
      simp only [Step.andThen]
      omega

/-! ## What operations do to holdings -/

/-- A draft is refused for its shape only. -/
theorem Draft.shape_of_build_error {draft : Draft} {error : TransactionError}
    (failed : draft.build = .error error) : ∃ reason, error = .shape reason := by
  unfold build at failed
  split_ifs at failed <;> exact ⟨_, (Except.error.inj failed).symm⟩

namespace Session

/-- A draft that was completed could be built and registered. -/
theorem add_of_complete {session : Session} {name : String} {draft : Draft}
    {named : NamedTransaction} (succeeded : (session.complete name draft).result = .ok named) :
    draft.build = .ok named.transaction ∧ (session.add named).result = .ok () ∧
      (session.complete name draft).state = (session.add named).state := by
  cases built : draft.build with
  | error error =>
    rw [complete, built] at succeeded
    cases succeeded
  | ok tx =>
    rw [complete_of_build built] at succeeded ⊢
    cases added : (session.add ⟨name, tx⟩).result with
    | error error =>
      rw [added] at succeeded
      cases succeeded
    | ok value =>
      rw [added] at succeeded
      cases succeeded
      exact ⟨rfl, added, rfl⟩

/-- Registering a transaction adds what its outputs hold. -/
theorem holdings_add {session : Session} {named : NamedTransaction}
    (succeeded : (session.add named).result = .ok ()) (owner : Owner) :
    (session.add named).state.unspent.holdings owner =
      session.unspent.holdings owner + heldFor owner named.transaction.outputs := by
  rw [add_unspent]
  exact Unspent.holdings_addFrom ((session.add_ok_iff named).mp succeeded) owner

/-- An ordinary transaction that succeeds takes away what the spent outputs hold and adds what the
new ones do. -/
theorem holdings_ordinary {session : Session} {name : String} {spends : List Spend}
    {outputs : List Output} {named : NamedTransaction}
    (succeeded : (session.ordinary name spends outputs).result = .ok named) :
    ∃ spent : List Output,
      spends.map (fun spend => session.unspent.get? spend.outpoint) = spent.map some ∧
      ∀ owner, (session.ordinary name spends outputs).state.unspent.holdings owner +
        heldFor owner spent = session.unspent.holdings owner + heldFor owner outputs := by
  rcases session.ordinary_cases name spends outputs with
    ⟨_, failed⟩ | ⟨_, _, failed⟩ | ⟨_, _, all, completed⟩
  · rw [failed] at succeeded
    cases succeeded
  · rw [failed] at succeeded
    cases succeeded
  · rw [completed] at succeeded ⊢
    obtain ⟨built, added, state⟩ := add_of_complete succeeded
    have made : named.transaction.outputs = outputs := by rw [Draft.eq_of_build built]
    have present : ∀ point ∈ spends.map Spend.outpoint, (session.unspent.get? point).isSome := by
      intro point mem
      rw [← all] at mem
      exact Unspent.isSome_of_mem_taken mem
    obtain ⟨spent, found⟩ := Unspent.exists_outputs_at present
    refine ⟨spent, by rw [← found, List.map_map]; rfl, fun owner => ?_⟩
    rw [← all] at found
    have before := Draft.empty.holdings_spendAll spends session.unspent found owner
    have after := holdings_add added owner
    rw [made] at after
    rw [state, after, before]
    simp only
    omega

/-- Completing a draft finds nothing missing: all spends were made by then. -/
theorem complete_result_ne_unknown (session : Session) (name : String) (draft : Draft)
    (point : OutPoint) :
    (session.complete name draft).result ≠ .error (.transaction (.unspent (.unknown point))) := by
  intro failed
  cases built : draft.build with
  | error error =>
    obtain ⟨reason, rfl⟩ := Draft.shape_of_build_error built
    rw [complete, built] at failed
    cases failed
  | ok tx =>
    rw [complete_of_build built] at failed
    rcases session.add_cases ⟨name, tx⟩ with ⟨error, _, step⟩ | ⟨_, step⟩
    · rw [step] at failed
      cases failed
    · rw [step] at failed
      cases failed

/-- An ordinary transaction that misses an outpoint takes away what was spent before it. -/
theorem holdings_ordinary_of_unknown {session : Session} {name : String} {spends : List Spend}
    {outputs : List Output} {point : OutPoint}
    (failed : (session.ordinary name spends outputs).result =
      .error (.transaction (.unspent (.unknown point)))) :
    ∃ (position : Nat) (spent : List Output),
      session.unspent.FirstBlocked (spends.map Spend.outpoint) position point ∧
      (spends.take position).map (fun spend => session.unspent.get? spend.outpoint) =
        spent.map some ∧
      ∀ owner, (session.ordinary name spends outputs).state.unspent.holdings owner +
        heldFor owner spent = session.unspent.holdings owner := by
  rcases session.unspent.free_or_firstBlocked (spends.map Spend.outpoint) with
    free | ⟨position, other, blocks⟩
  · have made := (Draft.spendAll_of_free free Draft.empty).1
    rcases session.ordinary_cases name spends outputs with
      ⟨_, step⟩ | ⟨_, missing, _⟩ | ⟨_, _, _, completed⟩
    · rw [step] at failed
      cases failed
    · rw [made] at missing
      cases missing
    · rw [completed] at failed
      exact absurd failed (complete_result_ne_unknown _ _ _ point)
  · obtain ⟨result, state⟩ := session.ordinary_of_firstBlocked name outputs blocks
    have taken := (Draft.spendAll_of_firstBlocked blocks Draft.empty).2
    obtain rfl : other = point := by
      rw [failed] at result
      cases result
      rfl
    have present : ∀ point ∈ session.unspent.taken (spends.map Spend.outpoint),
        (session.unspent.get? point).isSome := fun _ => Unspent.isSome_of_mem_taken
    obtain ⟨spent, found⟩ := Unspent.exists_outputs_at present
    refine ⟨position, spent, blocks, ?_, fun owner => ?_⟩
    · rw [← found, taken, ← List.map_take, List.map_map]
      rfl
    · rw [state]
      exact (Draft.empty.holdings_spendAll spends session.unspent found owner).symm

/-- A generation transaction adds the reward to what its owner holds. -/
theorem holdings_generation {session : Session} {name : String} {generator : Owner}
    {named : NamedTransaction} (succeeded : (session.generation name generator).result = .ok named)
    (owner : Owner) :
    (session.generation name generator).state.unspent.holdings owner =
      session.unspent.holdings owner +
        if generator = owner then session.config.reward.toNat else 0 := by
  obtain ⟨built, added, state⟩ := add_of_complete succeeded
  have reward : heldFor owner named.transaction.outputs =
      if generator = owner then session.config.reward.toNat else 0 := by
    rw [Draft.eq_of_build built]
    exact heldFor_cons owner ⟨session.config.reward, generator⟩ []
  have after := holdings_add added owner
  rw [reward] at after
  exact (congrArg (fun session => session.unspent.holdings owner) state).trans after

/-- The balance of an owner in any session is the exact sum of the available outputs that are the
owner's, as long as it is a word, and no balance otherwise. So is the total of a transaction. An
ordinary transaction takes from the holdings of each owner what the spent outputs hold and adds
what the new ones hold. If it misses an outpoint, it takes what was spent before. A generation
transaction adds the reward for its owner alone, and operations on blocks add and take nothing. -/
theorem balances_are_exact (session : Session) :
    (∀ owner,
      (∀ value, session.unspent.balanceOf owner = .ok value ↔
        value.toNat = session.unspent.holdings owner) ∧
      (session.unspent.balanceOf owner = .error .overflow ↔
        UInt64.size ≤ session.unspent.holdings owner)) ∧
    (∀ tx : Transaction,
      (∀ value, tx.totalOutput = .ok value ↔
        value.toNat = Amount.exactSum (tx.outputs.map Output.amount)) ∧
      (tx.totalOutput = .error .overflow ↔
        UInt64.size ≤ Amount.exactSum (tx.outputs.map Output.amount))) ∧
    (∀ name spends outputs named, (session.ordinary name spends outputs).result = .ok named →
      ∃ spent : List Output,
        spends.map (fun spend => session.unspent.get? spend.outpoint) = spent.map some ∧
        ∀ owner, (session.ordinary name spends outputs).state.unspent.holdings owner +
          heldFor owner spent = session.unspent.holdings owner + heldFor owner outputs) ∧
    (∀ name spends outputs point, (session.ordinary name spends outputs).result =
        .error (.transaction (.unspent (.unknown point))) →
      ∃ (position : Nat) (spent : List Output),
        session.unspent.FirstBlocked (spends.map Spend.outpoint) position point ∧
        (spends.take position).map (fun spend => session.unspent.get? spend.outpoint) =
          spent.map some ∧
        ∀ owner, (session.ordinary name spends outputs).state.unspent.holdings owner +
          heldFor owner spent = session.unspent.holdings owner) ∧
    (∀ name generator named, (session.generation name generator).result = .ok named →
      ∀ owner, (session.generation name generator).state.unspent.holdings owner =
        session.unspent.holdings owner +
          if generator = owner then session.config.reward.toNat else 0) ∧
    ∀ operation, operation.transacts = false → ∀ owner,
      (session.perform operation).state.unspent.holdings owner =
        session.unspent.holdings owner := by
  refine ⟨fun owner => ?_, fun tx => ?_, fun _ _ _ _ => holdings_ordinary,
    fun _ _ _ _ => holdings_ordinary_of_unknown, fun _ _ _ => holdings_generation, ?_⟩
  · rw [← Unspent.exactSum_outputsOf]
    exact ⟨Amount.sum_eq_ok_iff _, Amount.sum_eq_error_iff _⟩
  · exact ⟨Amount.sum_eq_ok_iff _, Amount.sum_eq_error_iff _⟩
  · intro operation idle owner
    rw [(session.perform_leavesOutputs idle).unspent]

/-- Two outputs that are together one more than the largest word have no balance, until one of
them is spent. -/
theorem balances_are_exact_past_words :
    let owner := Owner.address "o"
    let half : Output := ⟨9223372036854775808, owner⟩
    let first : OutPoint := ⟨Digest.zero, 0⟩
    let second : OutPoint := ⟨Digest.zero, 1⟩
    let set : Unspent := ⟨((∅ : Std.ExtTreeMap OutPoint Output).insert first half).insert second half⟩
    let session : Session := { start .default with unspent := set }
    let step := session.ordinary "a" [⟨first, [], 0⟩] []
    set.balanceOf owner = .error .overflow ∧ (∃ named, step.result = .ok named) ∧
      step.state.unspent.balanceOf owner = .ok 9223372036854775808 := by
  intro owner half first second set session step
  have share : half.share owner = 9223372036854775808 := if_pos rfl
  have size : UInt64.size = 9223372036854775808 + 9223372036854775808 := rfl
  let single : Unspent := ⟨(∅ : Std.ExtTreeMap OutPoint Output).insert first half⟩
  have inSingle : ∀ point, single.get? point = if first = point then some half else none :=
    fun point => Unspent.get?_insert .empty first point half
  have found : ∀ point, set.get? point = if second = point then some half else single.get? point :=
    fun point => single.get?_insert second point half
  have holdings : set.holdings owner = UInt64.size := by
    have absent : single.get? second = none := by
      rw [inSingle]
      rfl
    have one : single.holdings owner = half.share owner :=
      Unspent.holdings_insert (Unspent.get?_empty first) half owner
    calc set.holdings owner
      _ = half.share owner + single.holdings owner := Unspent.holdings_insert absent half owner
      _ = UInt64.size := by rw [one, share, size]
  have there : set.get? first = some half := by
    rw [found, inSingle]
    rfl
  have notNull : session.unspent.get? OutPoint.null = none := by
    rw [found, inSingle]
    rfl
  let spend : Spend := ⟨first, [], 0⟩
  have free : session.unspent.Free ([spend].map Spend.outpoint) := by
    refine (Unspent.free_iff _ _).mpr ⟨List.nodup_singleton _, fun point mem => ?_⟩
    rw [List.mem_singleton.mp mem, there]
    rfl
  let left : Session := { session with
    unspent := (Draft.empty.spendAll [spend] session.unspent).state }
  let named : NamedTransaction := ⟨"a", ⟨1, [spend].map Spend.input, [], 0⟩⟩
  have added : (left.add named).result = .ok () :=
    ((left.add_ok_iff named).trans (Unspent.addOutputs_ok_iff _ _)).mpr
      ⟨Nat.zero_le _, fun _ bound => absurd bound (Nat.not_lt_zero _)⟩
  have made : step.result = .ok named :=
    (ordinary_of_free notNull "a" (List.cons_ne_nil spend []) [] free).2.trans
      (congrArg (Except.map fun _ => named) added)
  obtain ⟨spent, spentAt, after⟩ := (balances_are_exact session).2.2.1 "a" [spend] [] named made
  have one : spent = [half] :=
    List.map_injective_iff.mpr (fun _ _ => Option.some.inj)
      (spentAt.symm.trans (congrArg (fun found => [found]) there))
  have kept : step.state.unspent.holdings owner = 9223372036854775808 := by
    have accounts : step.state.unspent.holdings owner + heldFor owner spent =
        set.holdings owner + heldFor owner [] := after owner
    rw [one, heldFor_cons, heldFor_nil, share, holdings, size] at accounts
    omega
  exact ⟨((balances_are_exact session).1 owner).2.mpr (Nat.le_of_eq holdings.symm), ⟨named, made⟩,
    (((balances_are_exact step.state).1 owner).1 _).mpr kept.symm⟩

end Session
end PocketLedger
