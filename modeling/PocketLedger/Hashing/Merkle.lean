import PocketLedger.Hashing.Sha256

/-!
# Merkle roots

The root of a list of ids is found by hashing neighbours together, level by level, until one
digest is left. A digest without a neighbour is paired with itself.
-/

namespace PocketLedger.Merkle

/-- The digest of two neighbours. -/
def node (left right : Digest) : Digest :=
  Hashing.doubleSha256 (left.bytes ++ right.bytes)

/-- The level above a level. -/
def parents : List Digest → List Digest
  | [] => []
  | [last] => [node last last]
  | left :: right :: rest => node left right :: parents rest

@[simp]
theorem length_parents (level : List Digest) : (parents level).length = (level.length + 1) / 2 := by
  fun_induction parents level with
  | case1 => rfl
  | case2 => simp
  | case3 left right rest ih => simp [ih]; omega

/-- The merkle root of a list of ids. No ids have the zero digest as their root, and a single
id is its own root. -/
def root : List Digest → Digest
  | [] => Digest.zero
  | [only] => only
  | first :: second :: rest => root (parents (first :: second :: rest))
termination_by level => level.length
decreasing_by simp; omega

end PocketLedger.Merkle
