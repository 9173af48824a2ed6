import Mathlib.Algebra.Group.Nat.Even
import Mathlib.Algebra.Ring.Parity
import PocketLedger.Block.Basic

/-!
# Lists with one merkle root

A digest without a neighbour is paired with itself, so it makes no difference whether the last id
of an odd list is there once or twice. The same happens on every level above: where the length is
`2 ^ height` times an odd number, the level at that height is odd, and its last digest stands for
the last `2 ^ height` ids. These can be repeated without changing the root, and a block keeps its
id although it holds more transactions.
-/

namespace PocketLedger

/-- A list with so many of its last items once more behind it. -/
def withTailRepeated {α : Type} (count : Nat) (items : List α) : List α :=
  items ++ items.drop (items.length - count)

theorem map_withTailRepeated {α β : Type} (f : α → β) (count : Nat) (items : List α) :
    (withTailRepeated count items).map f = withTailRepeated count (items.map f) := by
  simp only [withTailRepeated, List.map_append, List.map_drop, List.length_map]

theorem length_withTailRepeated {α : Type} {count : Nat} {items : List α}
    (enough : count ≤ items.length) :
    (withTailRepeated count items).length = items.length + count := by
  rw [withTailRepeated, List.length_append, List.length_drop]
  omega

namespace Merkle

/-! ## One level -/

/-- Digests in pairs do not take part in what follows them. -/
theorem parents_append {left : List Digest} (even : Even left.length) (right : List Digest) :
    parents (left ++ right) = parents left ++ parents right := by
  fun_induction parents left with
  | case1 => rfl
  | case2 last => exact absurd even Nat.not_even_one
  | case3 first second rest ih =>
    have evenRest : Even rest.length := by
      simpa [Nat.even_add_one] using even
    simp only [List.cons_append, parents, ih evenRest]

/-- Above a level without its first pairs is the level above without their nodes. -/
theorem parents_drop (count : Nat) (level : List Digest) :
    parents (level.drop (2 * count)) = (parents level).drop count := by
  induction count generalizing level with
  | zero => rfl
  | succ count ih =>
    rw [Nat.mul_succ]
    match level with
    | [] => simp [parents]
    | [last] => simp [parents]
    | first :: second :: rest => exact ih rest

/-- The last digest of an odd level has the same node above it if it is there twice. -/
theorem parents_withTailRepeated_one {level : List Digest} (odd : Odd level.length) :
    parents (withTailRepeated 1 level) = parents level := by
  rcases List.eq_nil_or_concat level with rfl | ⟨front, last, rfl⟩
  · exact absurd odd Nat.not_odd_zero
  · rw [List.concat_eq_append] at odd ⊢
    have even : Even front.length := by
      simpa [Nat.odd_add_one] using odd
    have repeated : withTailRepeated 1 (front ++ [last]) = front ++ [last, last] := by
      simp [withTailRepeated]
    rw [repeated, parents_append even, parents_append even]
    rfl

/-- Repeating whole pairs at the end of a level repeats their nodes. -/
theorem parents_withTailRepeated_two_mul {level : List Digest} (even : Even level.length)
    (count : Nat) :
    parents (withTailRepeated (2 * count) level) = withTailRepeated count (parents level) := by
  obtain ⟨half, length⟩ := even
  have before : level.length - 2 * count = 2 * (half - count) := by omega
  have above : (parents level).length - count = half - count := by
    rw [length_parents]
    omega
  rw [withTailRepeated, parents_append ⟨half, length⟩, before, parents_drop, withTailRepeated, above]

/-! ## All levels -/

/-- The root of a level is that of the level above, unless it is a single digest. -/
theorem root_parents {level : List Digest} (several : 2 ≤ level.length) :
    root (parents level) = root level := by
  match level with
  | first :: second :: rest => rw [root]

/-- The digests below the last one of an odd level can be repeated. The induction goes up from the
leaves to that level. -/
theorem root_withTailRepeated {height width : Nat} (odd : Odd width) (several : 3 ≤ width)
    {level : List Digest} (length : level.length = 2 ^ height * width) :
    root (withTailRepeated (2 ^ height) level) = root level := by
  induction height generalizing level with
  | zero =>
    rw [pow_zero, one_mul] at length
    rw [pow_zero]
    have longer : (withTailRepeated 1 level).length = level.length + 1 :=
      length_withTailRepeated (by omega)
    calc root (withTailRepeated 1 level)
      _ = root (parents (withTailRepeated 1 level)) := (root_parents (by omega)).symm
      _ = root (parents level) := by rw [parents_withTailRepeated_one (length ▸ odd)]
      _ = root level := root_parents (by omega)
  | succ height ih =>
    have double : level.length = 2 * (2 ^ height * width) := by
      rw [length, pow_succ']
      exact mul_assoc ..
    have positive : 0 < 2 ^ height * width := Nat.mul_pos (Nat.two_pow_pos height) (by omega)
    have longer : level.length ≤ (withTailRepeated (2 * 2 ^ height) level).length := by
      simp [withTailRepeated]
    have above : (parents level).length = 2 ^ height * width := by
      rw [length_parents]
      omega
    rw [pow_succ']
    calc root (withTailRepeated (2 * 2 ^ height) level)
      _ = root (parents (withTailRepeated (2 * 2 ^ height) level)) :=
        (root_parents (by omega)).symm
      _ = root (withTailRepeated (2 ^ height) (parents level)) := by
        rw [parents_withTailRepeated_two_mul (double ▸ even_two_mul _)]
      _ = root (parents level) := ih above
      _ = root level := root_parents (by omega)

end Merkle

/-! ## Blocks -/

namespace Block

/-- The last `2 ^ height` ids of a list that is an odd number of times as long, and at least three
times, can be repeated without changing the merkle root. So can the last transactions of a block:
its header commits to them as it does to the fewer, under the same id. -/
theorem repeated_tail_keeps_root (height : Nat) {width : Nat} (odd : Odd width) (several : 3 ≤ width) :
    (∀ ids : List Digest, ids.length = 2 ^ height * width →
      Merkle.root (ids ++ ids.drop (ids.length - 2 ^ height)) = Merkle.root ids) ∧
    ∀ block : Block, block.transactions.length = 2 ^ height * width → block.commits = true →
      let longer : Block := ⟨block.header, block.transactions ++
        block.transactions.drop (block.transactions.length - 2 ^ height)⟩
      longer.transactions.length = 2 ^ height * (width + 1) ∧
        longer.id = block.id ∧ longer.commits = true := by
  refine ⟨fun ids length => Merkle.root_withTailRepeated odd several length, ?_⟩
  intro block length commits longer
  have roots : merkleRoot longer.transactions = merkleRoot block.transactions := by
    have ids : longer.transactions.map Transaction.id =
        withTailRepeated (2 ^ height) (block.transactions.map Transaction.id) :=
      map_withTailRepeated Transaction.id (2 ^ height) block.transactions
    rw [merkleRoot, ids]
    apply Merkle.root_withTailRepeated odd several
    rw [List.length_map, length]
  refine ⟨?_, rfl, ?_⟩
  · have enough : 2 ^ height ≤ block.transactions.length := by
      rw [length]
      exact Nat.le_mul_of_pos_right _ (by omega)
    rw [Nat.mul_succ, ← length]
    exact length_withTailRepeated enough
  · have root : merkleRoot block.transactions = block.header.merkleRoot := beq_iff_eq.mp commits
    exact beq_iff_eq.mpr (roots.trans root)

/-- Of six transactions the last two can be repeated. -/
theorem repeated_tail_keeps_root_of_six :
    let six : List Transaction := [⟨1, [], [], 0⟩, ⟨1, [], [], 1⟩, ⟨1, [], [], 2⟩, ⟨1, [], [], 3⟩,
      ⟨1, [], [], 4⟩, ⟨1, [], [], 5⟩]
    let header : Header := ⟨4, Digest.zero, merkleRoot six, 1, 0, 0⟩
    let block : Block := ⟨header, six⟩
    let longer : Block := ⟨header, six ++ [⟨1, [], [], 4⟩, ⟨1, [], [], 5⟩]⟩
    Odd 3 ∧ six.length = 2 ^ 1 * 3 ∧ block.commits = true ∧
      longer ≠ block ∧ longer.id = block.id ∧ longer.commits = true := by
  intro six header block longer
  have odd : Odd 3 := by decide
  have commits : block.commits = true := beq_iff_eq.mpr rfl
  have differ : longer ≠ block := by
    intro same
    have lengths := congrArg (fun block => block.transactions.length) same
    exact absurd lengths (by decide)
  obtain ⟨_, ids, longerCommits⟩ :=
    (repeated_tail_keeps_root 1 odd (Nat.le_refl 3)).2 block rfl commits
  exact ⟨odd, rfl, commits, differ, ids, longerCommits⟩

end Block
end PocketLedger
