import PocketLedger.Bytes.Radix

/-!
# The curve secp256k1

Points of `y² = x³ + 7` over a prime field, in Jacobian coordinates: `(x, y, z)` stands for
the affine point `(x / z², y / z³)`, and `z = 0` for the neutral element. Only what public
keys need is here: multiples of the base point and their compressed form.
-/

namespace PocketLedger.Curve

/-- The prime of the field. -/
def fieldPrime : Nat := 0xfffffffffffffffffffffffffffffffffffffffffffffffffffffffefffffc2f

/-- The order of the base point. -/
def order : Nat := 0xfffffffffffffffffffffffffffffffebaaedce6af48a03bbfd25e8cd0364141

/-- The number of bits of field elements and scalars. -/
def bitLength : Nat := 256

/-- The product of two field elements. -/
def mul (a b : Nat) : Nat := a * b % fieldPrime

/-- The sum of two field elements. -/
def add (a b : Nat) : Nat := (a + b) % fieldPrime

/-- The difference of two reduced field elements. -/
def sub (a b : Nat) : Nat := (a + (fieldPrime - b)) % fieldPrime

/-- The bits of a number below `2 ^ bitLength`, the most significant first. -/
def bits (number : Nat) : List Bool :=
  (List.range bitLength).map fun index => number.testBit (bitLength - 1 - index)

/-- A power of a field element. -/
def pow (base exponent : Nat) : Nat :=
  (bits exponent).foldl (fun power bit =>
    let square := mul power power
    if bit then mul square base else square) 1

/-- The inverse of a nonzero field element, by the little theorem. -/
def inverse (a : Nat) : Nat := pow a (fieldPrime - 2)

/-- A point in Jacobian coordinates, each below the prime. -/
structure Point where
  x : Nat
  y : Nat
  z : Nat

namespace Point

/-- The neutral element. -/
def neutral : Point := ⟨1, 1, 0⟩

/-- The base point. -/
def base : Point where
  x := 0x79be667ef9dcbbac55a06295ce870b07029bfcdb2dce28d959f2815b16f81798
  y := 0x483ada7726a3c4655da4fbfc0e1108a8fd17b448a68554199c47d08ffb10d4b8
  z := 1

/-- A point added to itself. -/
def double (p : Point) : Point :=
  if p.z = 0 ∨ p.y = 0 then neutral
  else
    let ySquare := mul p.y p.y
    let s := mul 4 (mul p.x ySquare)
    let slope := mul 3 (mul p.x p.x)
    let x := sub (mul slope slope) (add s s)
    { x := x
      y := sub (mul slope (sub s x)) (mul 8 (mul ySquare ySquare))
      z := mul 2 (mul p.y p.z) }

/-- The sum of two points. -/
def plus (p q : Point) : Point :=
  if p.z = 0 then q
  else if q.z = 0 then p
  else
    let pSquare := mul p.z p.z
    let qSquare := mul q.z q.z
    let u₁ := mul p.x qSquare
    let u₂ := mul q.x pSquare
    let s₁ := mul p.y (mul qSquare q.z)
    let s₂ := mul q.y (mul pSquare p.z)
    if u₁ = u₂ then
      if s₁ = s₂ then p.double else neutral
    else
      let h := sub u₂ u₁
      let r := sub s₂ s₁
      let hSquare := mul h h
      let hCube := mul hSquare h
      let v := mul u₁ hSquare
      let x := sub (sub (mul r r) hCube) (add v v)
      { x := x
        y := sub (mul r (sub v x)) (mul s₁ hCube)
        z := mul h (mul p.z q.z) }

/-- The base point multiplied by a scalar. -/
def multiple (scalar : Nat) : Point :=
  (bits scalar).foldl (fun point bit =>
    let twice := point.double
    if bit then twice.plus base else twice) neutral

/-- The compressed form of a point other than the neutral one: the parity of the affine `y`,
then the affine `x` in 32 bytes. -/
def compressed (p : Point) : Bytes :=
  let zInverse := inverse p.z
  let square := mul zInverse zInverse
  let x := mul p.x square
  let y := mul p.y (mul square zInverse)
  (if y % 2 = 0 then 0x02 else 0x03) :: Radix.toBytes 32 x

end Point
end PocketLedger.Curve
