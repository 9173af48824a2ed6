import PocketLedger.Proofs.OrdinaryTransactions
import PocketLedger.Proofs.SessionChain
import PocketLedger.Proofs.TransactionIdentity

/-!
# Independent transactions

Two ordinary transactions that spend different available outputs can be made in either order.
The one that comes first takes nothing from the other and puts nothing in its way, so both succeed.
What they make does not depend on the session, and what they leave is the same map either way.
-/

namespace PocketLedger

/-! ## Maps -/

/-- The outputs are determined by what is found. -/
theorem Unspent.ext_get? {left right : Unspent} (same : ∀ point, left.get? point = right.get? point) :
    left = right := by
  cases left
  cases right
  congr 1
  exact Std.ExtTreeMap.ext_getElem? same

/-- Transactions of different ids can be made known in either order. -/
theorem Chain.register_comm (chain : Chain) {first second : Digest} (distinct : first ≠ second)
    (tx other : Transaction) :
    (chain.register first tx).register second other =
      (chain.register second other).register first tx := by
  unfold register
  congr 1
  apply Std.ExtTreeMap.ext_getElem?
  intro id
  simp only [Std.ExtTreeMap.getElem?_insert, Std.LawfulEqCmp.compare_eq_iff_eq]
  split_ifs with isSecond isFirst
  · exact absurd (isFirst.trans isSecond.symm) distinct
  · rfl
  · rfl
  · rfl

/-! ## Requests -/

/-- What an ordinary transaction is asked for with. -/
structure Request where
  name : String
  spends : List Spend
  outputs : List Output

namespace Request

/-- The outpoints that are to be spent. -/
def points (request : Request) : List OutPoint := request.spends.map Spend.outpoint

/-- The transaction that a request is for, under its name. -/
def named (request : Request) : NamedTransaction :=
  ⟨request.name, ⟨1, request.spends.map Spend.input, request.outputs, 0⟩⟩

/-- The id of that transaction. -/
def id (request : Request) : Digest := request.named.transaction.id

/-- A request that can be met: it spends available outputs, each once, and nothing that it creates
is there already. -/
structure Fits (request : Request) (set : Unspent) : Prop where
  nonempty : request.spends ≠ []
  nodup : request.points.Nodup
  available : ∀ point ∈ request.points, set.contains point = true
  numbered : request.outputs.length ≤ UInt32.size
  isNew : ∀ index, set.contains ⟨request.id, index⟩ = false

namespace Fits

variable {request : Request} {set : Unspent}

theorem free (fits : request.Fits set) : set.Free request.points := by
  refine (set.free_iff _).mpr ⟨fits.nodup, fun point mem => ?_⟩
  rw [← Unspent.contains_eq]
  exact fits.available point mem

theorem get?_eq_none (fits : request.Fits set) {point : OutPoint} (ofId : point.txId = request.id) :
    set.get? point = none := by
  have absent := fits.isNew point.index
  rwa [← ofId, Unspent.contains_eq, Option.isSome_eq_false_iff, Option.isNone_iff_eq_none] at absent

/-- Nothing that is available has the id of a request that fits. -/
theorem txId_ne (fits : request.Fits set) {point : OutPoint} (present : set.contains point = true) :
    point.txId ≠ request.id := by
  intro ofId
  rw [Unspent.contains_eq, fits.get?_eq_none ofId] at present
  cases present

end Fits
end Request

namespace Session

/-- Make the ordinary transaction that is requested. -/
def request (session : Session) (request : Request) : Step Session SessionError NamedTransaction :=
  session.ordinary request.name request.spends request.outputs

/-- A request is met: its outputs take the place of what it spends, its transaction is known, and
the count of generations is as before. -/
structure Meets (session : Session) (request : Request)
    (step : Step Session SessionError NamedTransaction) : Prop where
  result : step.result = .ok request.named
  unspent : ∀ point, step.state.unspent.get? point =
    if point.txId = request.id ∧ point.index.toNat < request.outputs.length then
      request.outputs[point.index.toNat]?
    else if point ∈ request.points then none else session.unspent.get? point
  chain : step.state.chain = session.chain.register request.id request.named.transaction
  generations : step.state.generations = session.generations

/-- A request that fits is met. -/
theorem meets_of_fits {session : Session} {request : Request}
    (fits : request.Fits session.unspent) (notNull : OutPoint.null ∉ request.points) :
    session.Meets request (session.request request) := by
  have spending : ∀ spend ∈ request.spends, spend.outpoint ≠ OutPoint.null := by
    intro spend mem isNull
    exact notNull (isNull ▸ List.mem_map_of_mem mem)
  obtain ⟨state, result⟩ := session.ordinary_of_spending request.name fits.nonempty request.outputs
    fits.free spending
  let left := { session with
    unspent := (Draft.empty.spendAll request.spends session.unspent).state }
  have spent : ∀ point, left.unspent.get? point =
      if point ∈ request.points then none else session.unspent.get? point := by
    intro point
    have taken := Draft.empty.get?_spendAll request.spends session.unspent point
    rwa [(Draft.spendAll_of_free fits.free Draft.empty).2] at taken
  obtain ⟨added, first⟩ := add_to_left request.named spent fits.numbered
    fun index _ => fits.get?_eq_none rfl
  constructor
  case result => exact result.trans (congrArg (Except.map fun _ => request.named) added)
  case unspent =>
    intro point
    have unspent := congrArg (fun session => session.unspent.get? point) state
    exact unspent.trans ((first point).trans (by rw [spent]; rfl))
  case chain =>
    rcases left.add_chain_cases request.named with ⟨error, failed, _⟩ | ⟨_, chain, _⟩
    · rw [failed] at added
      cases added
    · exact (congrArg Session.chain state).trans chain
  case generations =>
    exact (congrArg Session.generations state).trans (left.add_state request.named).2

end Session

/-! ## Two requests -/

namespace Request

/-- Requests that spend different outputs, for transactions whose contents do not collide. -/
structure Independent (left right : Request) : Prop where
  disjoint : ∀ point ∈ left.points, point ∉ right.points
  collisionFree : ¬ Digest.Collision (Digest.message left.named.transaction.content)
    (Digest.message right.named.transaction.content)

namespace Independent

variable {left right : Request} {session : Session}

theorem symm (independent : left.Independent right) : right.Independent left where
  disjoint point mem other := independent.disjoint point other mem
  collisionFree collision :=
    independent.collisionFree ⟨Ne.symm collision.1, collision.2.symm⟩

/-- Independent requests are for transactions of different ids, since these have other inputs. -/
theorem id_ne (independent : left.Independent right) (nonempty : left.spends ≠ []) :
    left.id ≠ right.id := by
  intro same
  have equal := ((Transaction.id_eq_iff _ _).mp same).resolve_right independent.collisionFree
  have inputs : left.spends.map Spend.input = right.spends.map Spend.input :=
    congrArg Transaction.inputs equal
  have points : left.points = right.points := by
    have outpoints := congrArg (List.map Input.outpoint) inputs
    rwa [List.map_map, List.map_map] at outpoints
  obtain ⟨spend, mem⟩ := List.exists_mem_of_ne_nil left.spends nonempty
  have named : spend.outpoint ∈ left.points := List.mem_map_of_mem mem
  exact independent.disjoint _ named (points ▸ named)

/-- A request that fits still does after an independent one was met. -/
theorem fits_after (independent : left.Independent right) (leftFits : left.Fits session.unspent)
    (rightFits : right.Fits session.unspent)
    {step : Step Session SessionError NamedTransaction} (met : session.Meets left step) :
    right.Fits step.state.unspent where
  nonempty := rightFits.nonempty
  nodup := rightFits.nodup
  numbered := rightFits.numbered
  available point mem := by
    have present := rightFits.available point mem
    have kept : point ∉ left.points := fun other => independent.disjoint point other mem
    have otherId := leftFits.txId_ne present
    rw [Unspent.contains_eq, met.unspent, if_neg (fun both => otherId both.1), if_neg kept,
      ← Unspent.contains_eq]
    exact present
  isNew index := by
    have otherId := independent.id_ne leftFits.nonempty
    rw [Unspent.contains_eq, met.unspent, if_neg (fun both => otherId both.1.symm),
      rightFits.get?_eq_none rfl, ite_self]
    rfl

end Independent
end Request

namespace Session

/-- Requests that were met one after the other leave the same outputs in the other order. -/
theorem unspent_of_either_order {session : Session} {left right : Request}
    {first second other last : Step Session SessionError NamedTransaction}
    (independent : left.Independent right)
    (leftFits : left.Fits session.unspent) (rightFits : right.Fits session.unspent)
    (firstMet : session.Meets left first) (secondMet : first.state.Meets right second)
    (otherMet : session.Meets right other) (lastMet : other.state.Meets left last) :
    second.state.unspent = last.state.unspent := by
  apply Unspent.ext_get?
  intro point
  rw [secondMet.unspent, firstMet.unspent, lastMet.unspent, otherMet.unspent]
  have ids := independent.id_ne leftFits.nonempty
  by_cases ofLeft : point.txId = left.id
  · have notSpent : point ∉ right.points := fun mem =>
      leftFits.txId_ne (rightFits.available point mem) ofLeft
    simp only [ofLeft, ids, notSpent, false_and, if_false]
  · by_cases ofRight : point.txId = right.id
    · have notSpent : point ∉ left.points := fun mem =>
        rightFits.txId_ne (leftFits.available point mem) ofRight
      simp only [ofRight, ids.symm, notSpent, false_and, if_false]
    · simp only [ofLeft, ofRight, false_and, if_false]
      split_ifs <;> rfl

/-- Two ordinary transactions that spend different available outputs, with ids under which nothing
is available, succeed in either order. They are the same transactions both times, and the outputs,
balances, chain and count of generations that they leave are the same. Only the announcements are
ordered as the transactions were. -/
theorem independent_ordinary_commute (session : Session) (left right : Request)
    (notNull : session.unspent.contains OutPoint.null = false)
    (leftFits : left.Fits session.unspent) (rightFits : right.Fits session.unspent)
    (independent : left.Independent right) :
    let first := session.request left
    let second := first.state.request right
    let other := session.request right
    let last := other.state.request left
    first.result = .ok left.named ∧ second.result = .ok right.named ∧
      other.result = .ok right.named ∧ last.result = .ok left.named ∧
      second.state.unspent.available = last.state.unspent.available ∧
      (∀ owner, second.state.unspent.balanceOf owner = last.state.unspent.balanceOf owner) ∧
      second.state.chain = last.state.chain ∧
      second.state.generations = last.state.generations := by
  intro first second other last
  have notSpent : ∀ request : Request, request.Fits session.unspent →
      OutPoint.null ∉ request.points := by
    intro request fits mem
    rw [fits.available _ mem] at notNull
    cases notNull
  have firstMet := meets_of_fits leftFits (notSpent left leftFits)
  have otherMet := meets_of_fits rightFits (notSpent right rightFits)
  have secondMet := meets_of_fits (independent.fits_after leftFits rightFits firstMet)
    (notSpent right rightFits)
  have lastMet := meets_of_fits (independent.symm.fits_after rightFits leftFits otherMet)
    (notSpent left leftFits)
  have unspent : second.state.unspent = last.state.unspent :=
    unspent_of_either_order independent leftFits rightFits firstMet secondMet otherMet lastMet
  refine ⟨firstMet.result, secondMet.result, otherMet.result, lastMet.result, ?_, ?_, ?_, ?_⟩
  · rw [unspent]
  · intro owner
    rw [unspent]
  · rw [secondMet.chain, firstMet.chain, lastMet.chain, otherMet.chain]
    exact session.chain.register_comm (independent.id_ne leftFits.nonempty) _ _
  · rw [secondMet.generations, firstMet.generations, lastMet.generations, otherMet.generations]

/-- The ids of two requests that move an output of the zero id each, and the zero id. -/
theorem ids_of_moves_differ :
    [Digest.zero,
      Request.id ⟨"a", [⟨⟨Digest.zero, 0⟩, [], 0⟩], [⟨1, .address "o"⟩]⟩,
      Request.id ⟨"b", [⟨⟨Digest.zero, 1⟩, [], 0⟩], [⟨2, .address "o"⟩]⟩].Nodup := by
  decide +kernel

/-- Two outputs of the zero id are moved in either order. -/
theorem independent_ordinary_commute_of_moves :
    let left : Request := ⟨"a", [⟨⟨Digest.zero, 0⟩, [], 0⟩], [⟨1, .address "o"⟩]⟩
    let right : Request := ⟨"b", [⟨⟨Digest.zero, 1⟩, [], 0⟩], [⟨2, .address "o"⟩]⟩
    let set : Unspent := ⟨((∅ : Std.ExtTreeMap OutPoint Output).insert ⟨Digest.zero, 0⟩
      ⟨1, .address "p"⟩).insert ⟨Digest.zero, 1⟩ ⟨2, .address "p"⟩⟩
    let session : Session := { start .default with unspent := set }
    set.contains OutPoint.null = false ∧ left.Fits set ∧ right.Fits set ∧ left.Independent right ∧
      ((session.request left).state.request right).result = .ok right.named ∧
      ((session.request right).state.request left).result = .ok left.named ∧
      ((session.request left).state.request right).state.unspent.available =
        ((session.request right).state.request left).state.unspent.available := by
  intro left right set session
  have ids := ids_of_moves_differ
  rw [List.nodup_cons, List.nodup_cons, List.mem_cons, List.mem_singleton, List.mem_singleton,
    not_or] at ids
  obtain ⟨⟨notLeft, notRight⟩, apart, _⟩ := ids
  have found : ∀ point, set.get? point =
      if ⟨Digest.zero, 1⟩ = point then some ⟨2, .address "p"⟩
      else if ⟨Digest.zero, 0⟩ = point then some ⟨1, .address "p"⟩ else none := by
    intro point
    exact (Unspent.get?_insert _ _ point _).trans
      (congrArg _ (Unspent.get?_insert .empty _ point _))
  have absent : ∀ id index, Digest.zero ≠ id → set.contains ⟨id, index⟩ = false := by
    intro id index other
    rw [Unspent.contains_eq, found, if_neg (fun same => other (congrArg OutPoint.txId same)),
      if_neg (fun same => other (congrArg OutPoint.txId same))]
    rfl
  have leftFits : left.Fits set := by
    refine ⟨List.cons_ne_nil _ _, List.pairwise_singleton _ _, fun point mem => ?_, by decide,
      fun index => absent _ index notLeft⟩
    rw [List.mem_singleton.mp mem, Unspent.contains_eq, found]
    rfl
  have rightFits : right.Fits set := by
    refine ⟨List.cons_ne_nil _ _, List.pairwise_singleton _ _, fun point mem => ?_, by decide,
      fun index => absent _ index notRight⟩
    rw [List.mem_singleton.mp mem, Unspent.contains_eq, found]
    rfl
  have independent : left.Independent right := by
    refine ⟨fun point mem other => ?_, fun collision => ?_⟩
    · have same := (List.mem_singleton.mp mem).symm.trans (List.mem_singleton.mp other)
      exact absurd (congrArg OutPoint.index same) (by decide)
    · exact apart ((Transaction.id_eq_iff _ _).mpr (.inr collision))
  have notNull : set.contains OutPoint.null = false := by
    rw [Unspent.contains_eq, found]
    rfl
  obtain ⟨_, second, _, last, available, _⟩ :=
    independent_ordinary_commute session left right notNull leftFits rightFits independent
  exact ⟨notNull, leftFits, rightFits, independent, second, last, available⟩

end Session
end PocketLedger
