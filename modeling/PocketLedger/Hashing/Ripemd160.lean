import PocketLedger.Hashing.Sha256

/-!
# RIPEMD-160 and the short hash of keys and scripts

RIPEMD-160 runs two lines of eighty steps over each block and joins them. Keys and scripts
are named by RIPEMD-160 of SHA-256, which has 20 bytes.
-/

namespace PocketLedger

/-- A string of exactly 20 bytes, the short hash of a key or a script. -/
structure Hash160 where
  /-- The bytes, in the order they are written. -/
  bytes : Bytes
  /-- A short hash has 20 bytes. -/
  length_eq : bytes.length = 20
  deriving DecidableEq

/-- The short hash with the given bytes, if there are 20. -/
def Hash160.ofBytes? (bytes : Bytes) : Option Hash160 :=
  if h : bytes.length = 20 then some ⟨bytes, h⟩ else none

namespace Hashing

/-- The five words that RIPEMD-160 carries from block to block. -/
structure Ripemd160State where
  a : UInt32
  b : UInt32
  c : UInt32
  d : UInt32
  e : UInt32

namespace Ripemd160State

/-- The state before the first block. -/
def start : Ripemd160State :=
  ⟨0x67452301, 0xefcdab89, 0x98badcfe, 0x10325476, 0xc3d2e1f0⟩

/-- The bitwise function of each group of sixteen steps, on the left line; the right line
takes them in reverse order. -/
def mix (group : Nat) (x y z : UInt32) : UInt32 :=
  match group with
  | 0 => x ^^^ y ^^^ z
  | 1 => (x &&& y) ||| ((~~~ x) &&& z)
  | 2 => (x ||| (~~~ y)) ^^^ z
  | 3 => (x &&& z) ||| (y &&& (~~~ z))
  | _ => x ^^^ (y ||| (~~~ z))

/-- One line of eighty steps: which word each step reads, how far it rotates, and the
constant and bitwise function of each group of sixteen. -/
structure Line where
  reads : Array Nat
  turns : Array UInt32
  constants : Array UInt32
  group : Nat → Nat

/-- The left line. -/
def leftLine : Line where
  reads := #[
    0, 1, 2, 3, 4, 5, 6, 7, 8, 9, 10, 11, 12, 13, 14, 15,
    7, 4, 13, 1, 10, 6, 15, 3, 12, 0, 9, 5, 2, 14, 11, 8,
    3, 10, 14, 4, 9, 15, 8, 1, 2, 7, 0, 6, 13, 11, 5, 12,
    1, 9, 11, 10, 0, 8, 12, 4, 13, 3, 7, 15, 14, 5, 6, 2,
    4, 0, 5, 9, 7, 12, 2, 10, 14, 1, 3, 8, 11, 6, 15, 13]
  turns := #[
    11, 14, 15, 12, 5, 8, 7, 9, 11, 13, 14, 15, 6, 7, 9, 8,
    7, 6, 8, 13, 11, 9, 7, 15, 7, 12, 15, 9, 11, 7, 13, 12,
    11, 13, 6, 7, 14, 9, 13, 15, 14, 8, 13, 6, 5, 12, 7, 5,
    11, 12, 14, 15, 14, 15, 9, 8, 9, 14, 5, 6, 8, 6, 5, 12,
    9, 15, 5, 11, 6, 8, 13, 12, 5, 12, 13, 14, 11, 8, 5, 6]
  constants := #[0x00000000, 0x5a827999, 0x6ed9eba1, 0x8f1bbcdc, 0xa953fd4e]
  group := id

/-- The right line. -/
def rightLine : Line where
  reads := #[
    5, 14, 7, 0, 9, 2, 11, 4, 13, 6, 15, 8, 1, 10, 3, 12,
    6, 11, 3, 7, 0, 13, 5, 10, 14, 15, 8, 12, 4, 9, 1, 2,
    15, 5, 1, 3, 7, 14, 6, 9, 11, 8, 12, 2, 10, 0, 4, 13,
    8, 6, 4, 1, 3, 11, 15, 0, 5, 12, 2, 13, 9, 7, 10, 14,
    12, 15, 10, 4, 1, 5, 8, 7, 6, 2, 13, 14, 0, 3, 9, 11]
  turns := #[
    8, 9, 9, 11, 13, 15, 15, 5, 7, 7, 8, 11, 14, 14, 12, 6,
    9, 13, 15, 7, 12, 8, 9, 11, 7, 7, 12, 7, 6, 15, 13, 11,
    9, 7, 15, 11, 8, 6, 6, 14, 12, 13, 5, 14, 13, 13, 7, 5,
    15, 5, 8, 11, 14, 14, 6, 14, 6, 9, 12, 9, 12, 5, 15, 8,
    8, 5, 12, 9, 12, 5, 14, 6, 8, 13, 6, 5, 15, 13, 11, 11]
  constants := #[0x50a28be6, 0x5c4dd124, 0x6d703ef3, 0x7a6d76e9, 0x00000000]
  group := fun group => 4 - group

/-- One step of a line. -/
def step (line : Line) (block : Array UInt32) (state : Ripemd160State) (index : Nat) :
    Ripemd160State :=
  let group := index / 16
  let word := block.getD (line.reads.getD index 0) 0
  let sum := state.a + mix (line.group group) state.b state.c state.d + word +
    line.constants.getD group 0
  { a := state.e, b := rotateLeft sum (line.turns.getD index 0) + state.e, c := state.b
    d := rotateLeft state.c 10, e := state.d }

/-- Take in one block. -/
def absorb (state : Ripemd160State) (block : Array UInt32) : Ripemd160State :=
  let left := (List.range 80).foldl (step leftLine block) state
  let right := (List.range 80).foldl (step rightLine block) state
  { a := state.b + left.c + right.d, b := state.c + left.d + right.e
    c := state.d + left.e + right.a, d := state.e + left.a + right.b
    e := state.a + left.b + right.c }

/-- The state as 20 bytes. -/
def hash (state : Ripemd160State) : Hash160 where
  bytes := [state.a, state.b, state.c, state.d, state.e].flatMap ByteOrder.littleEndian.bytes
  length_eq := by simp

end Ripemd160State

/-- The RIPEMD-160 hash of a message. -/
def ripemd160 (message : Bytes) : Hash160 :=
  ((blocks .littleEndian message).foldl Ripemd160State.absorb Ripemd160State.start).hash

/-- The short hash of a message: RIPEMD-160 of its SHA-256 digest. -/
def hash160 (message : Bytes) : Hash160 := ripemd160 (sha256 message).bytes

end Hashing
end PocketLedger
