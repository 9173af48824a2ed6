import PocketLedger.Proofs.HeaderIdentity
import PocketLedger.Proofs.TransactionIdentity

/-!
# A block id commits to the transactions

Three commitments are chained. The id of a block commits to its header, and among headers of
one version to the merkle root. The root commits to as many ids as are expected: level by level,
also where the last digest of a level is paired with itself. An id commits to its transaction.
Nothing is assumed of the hash function but that the messages hashed for the two blocks, which
`Merkle.messages` and the contents name, do not collide.
-/

namespace PocketLedger

/-- No message of one list collides with one of the other. -/
def Digest.NoCollision (left right : List Bytes) : Prop :=
  ∀ message ∈ left, ∀ other ∈ right, ¬ Digest.Collision message other

namespace Digest.NoCollision

variable {left right moreLeft moreRight : List Bytes}

theorem of_cons {first other : Bytes} (free : NoCollision (first :: left) (other :: right)) :
    ¬ Digest.Collision first other ∧ NoCollision left right :=
  ⟨free first List.mem_cons_self other List.mem_cons_self, fun message mem message' mem' =>
    free message (List.mem_cons_of_mem _ mem) message' (List.mem_cons_of_mem _ mem')⟩

theorem of_append (free : NoCollision (left ++ moreLeft) (right ++ moreRight)) :
    NoCollision left right ∧ NoCollision moreLeft moreRight := by
  constructor
  · intro message mem other otherMem
    exact free message (List.mem_append_left _ mem) other (List.mem_append_left _ otherMem)
  · intro message mem other otherMem
    exact free message (List.mem_append_right _ mem) other (List.mem_append_right _ otherMem)

/-- Messages without collisions are told from their digests. -/
theorem eq_of_digests (free : NoCollision left right)
    (same : left.map Hashing.doubleSha256 = right.map Hashing.doubleSha256) : left = right := by
  induction left generalizing right with
  | nil => exact (List.map_eq_nil_iff.mp same.symm).symm
  | cons message left ih =>
    cases right with
    | nil => cases same
    | cons other right =>
      obtain ⟨heads, tails⟩ := List.cons.inj same
      obtain ⟨apart, freeRest⟩ := free.of_cons
      have equal : message = other := Decidable.byContradiction fun differ => apart ⟨differ, heads⟩
      rw [equal, ih freeRest tails]

end Digest.NoCollision

/-! ## Merkle roots -/

namespace Merkle

open Digest (NoCollision)

/-- The messages that the level above a level is hashed from. -/
def pairs : List Digest → List Bytes
  | [] => []
  | [last] => [last.bytes ++ last.bytes]
  | left :: right :: rest => (left.bytes ++ right.bytes) :: pairs rest

/-- All messages that are hashed on the way to a root. -/
def messages : List Digest → List Bytes
  | [] => []
  | [_] => []
  | first :: second :: rest =>
    pairs (first :: second :: rest) ++ messages (parents (first :: second :: rest))
termination_by level => level.length
decreasing_by simp; omega

/-- The level above is hashed from the pairs. -/
theorem parents_eq (level : List Digest) : parents level = (pairs level).map Hashing.doubleSha256 := by
  fun_induction parents level with
  | case1 => rfl
  | case2 last => rfl
  | case3 left right rest ih => rw [pairs, List.map_cons, ← ih]; rfl

/-- Neighbours are told from the message they are hashed as. -/
theorem neighbours_eq {left right left' right' : Digest}
    (same : left.bytes ++ right.bytes = left'.bytes ++ right'.bytes) :
    left = left' ∧ right = right' := by
  obtain ⟨lefts, rights⟩ := List.append_inj same (by rw [left.length_eq, left'.length_eq])
  exact ⟨Digest.ext_bytes lefts, Digest.ext_bytes rights⟩

/-- A level is told from its pairs, if its length is known. -/
theorem pairs_injective {left right : List Digest} (lengths : left.length = right.length)
    (same : pairs left = pairs right) : left = right := by
  fun_induction pairs left generalizing right with
  | case1 => exact (List.length_eq_zero_iff.mp lengths.symm).symm
  | case2 last =>
    obtain ⟨other, rfl⟩ := List.length_eq_one_iff.mp lengths.symm
    rw [(neighbours_eq (List.cons.inj same).1).1]
  | case3 first second rest ih =>
    match right, lengths with
    | other :: another :: others, lengths =>
      obtain ⟨head, tail⟩ := List.cons.inj same
      obtain ⟨rfl, rfl⟩ := neighbours_eq head
      rw [ih (by simpa using lengths) tail]

/-- Lists of ids of one length and one root are equal, unless messages hashed on the way to the
root collide. The induction goes from the leaves up: the levels above are shorter. -/
theorem root_injective {left right : List Digest} (lengths : left.length = right.length)
    (free : NoCollision (messages left) (messages right)) (same : root left = root right) :
    left = right := by
  induction left using root.induct generalizing right with
  | case1 => exact (List.length_eq_zero_iff.mp lengths.symm).symm
  | case2 only =>
    obtain ⟨other, rfl⟩ := List.length_eq_one_iff.mp lengths.symm
    rw [root, root] at same
    rw [same]
  | case3 first second rest ih =>
    match right, lengths with
    | other :: another :: others, lengths =>
      rw [root, root] at same
      rw [messages, messages] at free
      obtain ⟨freePairs, freeAbove⟩ := free.of_append
      have above := ih (by rw [length_parents, length_parents, lengths]) freeAbove same
      rw [parents_eq, parents_eq] at above
      exact pairs_injective lengths (freePairs.eq_of_digests above)

end Merkle

/-! ## Blocks -/

namespace Block

/-- What is hashed for two blocks does not collide: their headers, the nodes above their
transactions and the transactions. -/
structure CollisionFree (left right : Block) : Prop where
  headers : ¬ Digest.Collision (Digest.message left.header.content)
    (Digest.message right.header.content)
  nodes : Digest.NoCollision (Merkle.messages (left.transactions.map Transaction.id))
    (Merkle.messages (right.transactions.map Transaction.id))
  transactions : Digest.NoCollision
    (left.transactions.map fun tx => Digest.message tx.content)
    (right.transactions.map fun tx => Digest.message tx.content)

/-- The root in a header is told from the id, among headers of one version. -/
theorem merkleRoot_eq_of_id {left right : Block}
    (versions : left.header.version = right.header.version) (ids : left.id = right.id)
    (headers : ¬ Digest.Collision (Digest.message left.header.content)
      (Digest.message right.header.content)) :
    left.header.merkleRoot = right.header.merkleRoot := by
  have contents := ((Digest.ofContent_eq_iff _ _).mp ids).resolve_right headers
  exact ((Header.content_eq_iff_of_version versions).mp contents).2.1

end Block

/-- Transactions are told from their ids. -/
theorem Transaction.eq_of_map_id {left right : List Transaction}
    (free : Digest.NoCollision (left.map fun tx => Digest.message tx.content)
      (right.map fun tx => Digest.message tx.content))
    (same : left.map Transaction.id = right.map Transaction.id) : left = right := by
  have hashed : (left.map fun tx => Digest.message tx.content).map Hashing.doubleSha256 =
      (right.map fun tx => Digest.message tx.content).map Hashing.doubleSha256 := by
    rw [List.map_map, List.map_map]
    exact same
  refine (List.map_inj_right ?_).mp (free.eq_of_digests hashed)
  intro tx other equal
  exact content_injective (Digest.message_injective equal)

/-- Two blocks of one version, one id and as many transactions, whose headers commit to their
transactions, hold the same transactions in the same order. So do two lists of ids of one length
and one merkle root. In both cases nothing that is hashed for the one may collide with what is
hashed for the other. -/
theorem Block.id_commits_to_transactions :
    (∀ left right : Block, left.header.version = right.header.version → left.id = right.id →
      left.transactions.length = right.transactions.length →
      left.commits = true → right.commits = true → left.CollisionFree right →
        left.transactions = right.transactions) ∧
    ∀ left right : List Digest, left.length = right.length →
      Digest.NoCollision (Merkle.messages left) (Merkle.messages right) →
      Merkle.root left = Merkle.root right → left = right := by
  refine ⟨?_, fun left right lengths free => Merkle.root_injective lengths free⟩
  intro left right versions ids counts leftCommits rightCommits free
  have leftRoot : merkleRoot left.transactions = left.header.merkleRoot := beq_iff_eq.mp leftCommits
  have rightRoot : merkleRoot right.transactions = right.header.merkleRoot :=
    beq_iff_eq.mp rightCommits
  have roots : merkleRoot left.transactions = merkleRoot right.transactions := by
    rw [leftRoot, rightRoot]
    exact merkleRoot_eq_of_id versions ids free.headers
  have sameIds : left.transactions.map Transaction.id = right.transactions.map Transaction.id :=
    Merkle.root_injective (by rw [List.length_map, List.length_map, counts]) free.nodes roots
  exact Transaction.eq_of_map_id free.transactions sameIds

/-- The ids of two transactions that differ in their locktime alone. -/
theorem Transaction.ids_of_locktimes_differ :
    Transaction.id ⟨1, [], [], 0⟩ ≠ Transaction.id ⟨1, [], [], 1⟩ := by
  decide +kernel

/-- Two blocks of two transactions, which share an id although their headers differ. -/
theorem Block.id_commits_to_transactions_over_recut :
    let transactions : List Transaction := [⟨1, [], [], 0⟩, ⟨1, [], [], 1⟩]
    let left : Block := ⟨⟨4, Digest.zero, merkleRoot transactions, 1, 1, 11⟩, transactions⟩
    let right : Block := ⟨⟨4, Digest.zero, merkleRoot transactions, 11, 1, 1⟩, transactions⟩
    left ≠ right ∧ left.id = right.id ∧ left.commits = true ∧ right.commits = true ∧
      left.CollisionFree right ∧ left.transactions = right.transactions := by
  intro transactions left right
  have differ : left ≠ right := by
    intro same
    have timestamps := congrArg (fun block => block.header.timestamp) same
    exact absurd timestamps (by decide)
  have figures : left.header.figures = right.header.figures := by
    change Text.outline (1 : UInt64) ++ Text.outline (1 : UInt32) ++ Text.outline (11 : UInt64) =
      Text.outline (11 : UInt64) ++ Text.outline (1 : UInt32) ++ Text.outline (1 : UInt64)
    decide
  have versions : left.header.version = right.header.version := rfl
  have contents : left.header.content = right.header.content :=
    (Header.content_eq_iff_of_version versions).mpr ⟨rfl, rfl, figures⟩
  have ids : left.id = right.id := congrArg Digest.ofContent contents
  have leftCommits : left.commits = true := beq_iff_eq.mpr rfl
  have rightCommits : right.commits = true := beq_iff_eq.mpr rfl
  have free : left.CollisionFree right := by
    constructor
    case headers => exact fun collision => collision.1 (by rw [contents])
    case nodes =>
      simp [left, right, transactions, Digest.NoCollision, Merkle.messages, Merkle.pairs,
        Merkle.parents, Digest.Collision]
    case transactions =>
      have apart := Transaction.ids_of_locktimes_differ
      simp only [left, right, transactions, Digest.NoCollision, List.map_cons, List.map_nil,
        List.mem_cons, List.not_mem_nil, or_false, forall_eq_or_imp, forall_eq]
      exact ⟨⟨fun collision => collision.1 rfl, fun collision => apart collision.2⟩,
        fun collision => apart collision.2.symm, fun collision => collision.1 rfl⟩
  exact ⟨differ, ids, leftCommits, rightCommits, free,
    id_commits_to_transactions.1 left right versions ids rfl leftCommits rightCommits free⟩

end PocketLedger
