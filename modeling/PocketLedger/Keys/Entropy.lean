import PocketLedger.Keys.SecretKey

/-!
# Entropy

New keys are drawn from a sequence of blocks. The first blocks may be prescribed, which makes
runs repeatable; each later one is the SHA-256 digest of its own number. A block that is no
secret key is skipped.
-/

namespace PocketLedger

/-- A source of blocks, with the number of blocks drawn so far. -/
structure Entropy where
  /-- The prescribed blocks that have not been drawn. -/
  prescribed : List Bytes
  /-- How many blocks have been drawn. -/
  drawn : Nat

namespace Entropy

/-- A source that starts with the given blocks. -/
def start (prescribed : List Bytes) : Entropy := ⟨prescribed, 0⟩

/-- The block of a given number, once the prescribed ones are used up. -/
def block (number : Nat) : Bytes :=
  (Hashing.sha256 (Bytes.ofText ("entropy:" ++ toString number))).bytes

/-- The next block. -/
def next (entropy : Entropy) : Bytes × Entropy :=
  match entropy.prescribed with
  | first :: rest => (first, ⟨rest, entropy.drawn + 1⟩)
  | [] => (block entropy.drawn, ⟨[], entropy.drawn + 1⟩)

/-- The key of scalar one, which ends a search that found nothing. -/
def lastResort : SecretKey := ⟨1, by decide, by decide⟩

/-- Draw blocks until one is a secret key, at most `attempts` of them. -/
def search : (attempts : Nat) → Entropy → SecretKey × Entropy
  | 0, entropy => (lastResort, entropy)
  | attempts + 1, entropy =>
    let (bytes, rest) := entropy.next
    match SecretKey.ofBytes? bytes with
    | some key => (key, rest)
    | none => search attempts rest

/-- Draw a secret key. All prescribed blocks may be unfit; of the digests that follow, about
one in `2 ^ 128` is, so the search does not come to its end. -/
def drawKey (entropy : Entropy) : SecretKey × Entropy :=
  search (entropy.prescribed.length + 64) entropy

/-- Draw several keys. -/
def drawKeys : (count : Nat) → Entropy → List SecretKey × Entropy
  | 0, entropy => ([], entropy)
  | count + 1, entropy =>
    let (key, rest) := entropy.drawKey
    let (keys, rest) := drawKeys count rest
    (key :: keys, rest)

end Entropy
end PocketLedger
