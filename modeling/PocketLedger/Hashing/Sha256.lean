import PocketLedger.Hashing.Digest
import PocketLedger.Hashing.Words

/-!
# SHA-256

The hash function whose double application names transactions and blocks.
-/

namespace PocketLedger.Hashing

/-- The eight words that SHA-256 carries from block to block. -/
structure Sha256State where
  a : UInt32
  b : UInt32
  c : UInt32
  d : UInt32
  e : UInt32
  f : UInt32
  g : UInt32
  h : UInt32

namespace Sha256State

/-- The state before the first block. -/
def start : Sha256State :=
  ⟨0x6a09e667, 0xbb67ae85, 0x3c6ef372, 0xa54ff53a,
    0x510e527f, 0x9b05688c, 0x1f83d9ab, 0x5be0cd19⟩

/-- The constant added in each round. -/
def roundConstants : Array UInt32 := #[
  0x428a2f98, 0x71374491, 0xb5c0fbcf, 0xe9b5dba5, 0x3956c25b, 0x59f111f1, 0x923f82a4, 0xab1c5ed5,
  0xd807aa98, 0x12835b01, 0x243185be, 0x550c7dc3, 0x72be5d74, 0x80deb1fe, 0x9bdc06a7, 0xc19bf174,
  0xe49b69c1, 0xefbe4786, 0x0fc19dc6, 0x240ca1cc, 0x2de92c6f, 0x4a7484aa, 0x5cb0a9dc, 0x76f988da,
  0x983e5152, 0xa831c66d, 0xb00327c8, 0xbf597fc7, 0xc6e00bf3, 0xd5a79147, 0x06ca6351, 0x14292967,
  0x27b70a85, 0x2e1b2138, 0x4d2c6dfc, 0x53380d13, 0x650a7354, 0x766a0abb, 0x81c2c92e, 0x92722c85,
  0xa2bfe8a1, 0xa81a664b, 0xc24b8b70, 0xc76c51a3, 0xd192e819, 0xd6990624, 0xf40e3585, 0x106aa070,
  0x19a4c116, 0x1e376c08, 0x2748774c, 0x34b0bcb5, 0x391c0cb3, 0x4ed8aa4a, 0x5b9cca4f, 0x682e6ff3,
  0x748f82ee, 0x78a5636f, 0x84c87814, 0x8cc70208, 0x90befffa, 0xa4506ceb, 0xbef9a3f7, 0xc67178f2]

/-- The 64 words mixed in by the rounds of one block: its own sixteen, then each from four
earlier ones. -/
def schedule (block : Array UInt32) : Array UInt32 :=
  (List.range 48).foldl (fun words index =>
    let early := words.getD (index + 1) 0
    let late := words.getD (index + 14) 0
    let mixEarly := rotateRight early 7 ^^^ rotateRight early 18 ^^^ (early >>> 3)
    let mixLate := rotateRight late 17 ^^^ rotateRight late 19 ^^^ (late >>> 10)
    words.push (words.getD index 0 + mixEarly + words.getD (index + 9) 0 + mixLate)) block

/-- One round. -/
def round (state : Sha256State) (constant word : UInt32) : Sha256State :=
  let mixE := rotateRight state.e 6 ^^^ rotateRight state.e 11 ^^^ rotateRight state.e 25
  let choice := (state.e &&& state.f) ^^^ ((~~~ state.e) &&& state.g)
  let first := state.h + mixE + choice + constant + word
  let mixA := rotateRight state.a 2 ^^^ rotateRight state.a 13 ^^^ rotateRight state.a 22
  let majority := (state.a &&& state.b) ^^^ (state.a &&& state.c) ^^^ (state.b &&& state.c)
  { a := first + mixA + majority, b := state.a, c := state.b, d := state.c
    e := state.d + first, f := state.e, g := state.f, h := state.g }

/-- Take in one block. -/
def absorb (state : Sha256State) (block : Array UInt32) : Sha256State :=
  let words := schedule block
  let mixed := (List.range 64).foldl (fun mixed index =>
    mixed.round (roundConstants.getD index 0) (words.getD index 0)) state
  { a := state.a + mixed.a, b := state.b + mixed.b, c := state.c + mixed.c
    d := state.d + mixed.d, e := state.e + mixed.e, f := state.f + mixed.f
    g := state.g + mixed.g, h := state.h + mixed.h }

/-- The state as 32 bytes. -/
def digest (state : Sha256State) : Digest where
  bytes := [state.a, state.b, state.c, state.d, state.e, state.f, state.g, state.h].flatMap
    ByteOrder.bigEndian.bytes
  length_eq := by simp

end Sha256State

/-- The SHA-256 digest of a message. -/
def sha256 (message : Bytes) : Digest :=
  ((blocks .bigEndian message).foldl Sha256State.absorb Sha256State.start).digest

/-- SHA-256 applied to the SHA-256 digest of a message. -/
def doubleSha256 (message : Bytes) : Digest := sha256 (sha256 message).bytes

end PocketLedger.Hashing

namespace PocketLedger.Digest

/-- The digest that names a message: SHA-256, applied twice. -/
def of (message : Bytes) : Digest := Hashing.doubleSha256 message

/-- The digest that names a text, taken of its UTF-8 bytes. -/
def ofContent (content : List Char) : Digest := of (Bytes.ofText (String.ofList content))

end PocketLedger.Digest
