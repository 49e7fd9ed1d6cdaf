import MeshNode.Bytes

/-!
# The Curve25519 key exchange function

A secret of 32 bytes is clamped and multiplied with the base point, whose
first coordinate is nine. Coordinates are natural numbers below the field's
prime and are written as 32 little-endian bytes. The multiplication is the
Montgomery ladder over the secret's 255 low bits.
-/

namespace MeshNode.Curve25519

/-- The prime of the field. -/
def prime : Nat := (1 <<< 255) - 19

/-- Sum, difference and product in the field. -/
def add (a b : Nat) : Nat := (a + b) % prime

/-- The difference of two field elements. -/
def sub (a b : Nat) : Nat := (a + prime - b) % prime

/-- The product of two field elements. -/
def mul (a b : Nat) : Nat := a * b % prime

/-- Repeated squaring over the bits of the exponent, the lowest first. -/
def power (base : Nat) : (bits : Nat) → (exponent : Nat) → Nat
  | 0, _ => 1
  | bits + 1, exponent =>
    let rest := power (mul base base) bits (exponent / 2)
    if exponent % 2 = 1 then mul base rest else rest

/-- The inverse of a field element, by Fermat's little theorem; zero has none and
yields zero. -/
def inverse (a : Nat) : Nat := power a 255 (prime - 2)

/-- The two points of a ladder in projective form: the multiple so far and the
next one. -/
structure Ladder where
  x2 : Nat
  z2 : Nat
  x3 : Nat
  z3 : Nat

/-- One doubling and one differential addition. -/
def Ladder.advance (first : Nat) (l : Ladder) : Ladder :=
  let a := add l.x2 l.z2
  let aa := mul a a
  let b := sub l.x2 l.z2
  let bb := mul b b
  let e := sub aa bb
  let c := add l.x3 l.z3
  let d := sub l.x3 l.z3
  let da := mul d a
  let cb := mul c b
  let sum := add da cb
  let difference := sub da cb
  { x2 := mul aa bb
    z2 := mul e (add aa (mul 121665 e))
    x3 := mul sum sum
    z3 := mul first (mul difference difference) }

/-- Exchange the two points. -/
def Ladder.swap (l : Ladder) : Ladder := ⟨l.x3, l.z3, l.x2, l.z2⟩

/-- Walk the low `bits` bits of a scalar, the highest first. -/
def climb (first scalar : Nat) : (bits : Nat) → Ladder → Ladder
  | 0, l => l
  | bits + 1, l =>
    if scalar.testBit bits then climb first scalar bits (l.swap.advance first).swap
    else climb first scalar bits (l.advance first)

/-- The number that bytes write, the least significant first. -/
def ofLittleEndian (bytes : Bytes) : Nat := Bytes.toNat bytes.reverse

/-- Thirty-two bytes of a number, the least significant first. -/
def toLittleEndian (n : Nat) : Bytes := (Bytes.ofNat 32 n).reverse

/-- Clear the three low bits and the two high bits, and set bit 254. -/
def clamp (secret : Nat) : Nat := secret % (1 <<< 254) / 8 * 8 + (1 <<< 254)

/-- The first coordinate of a multiple of a point. -/
def multiply (scalar first : Nat) : Nat :=
  let l := climb first scalar 255 ⟨1, 0, first, 1⟩
  mul l.x2 (inverse l.z2)

/-- The public bytes of a secret. -/
def publicBytes (secret : Bytes) : Bytes :=
  toLittleEndian (multiply (clamp (ofLittleEndian secret)) 9)

/-- The public bytes are always 32. -/
theorem publicBytes_length (secret : Bytes) : (publicBytes secret).length = 32 := by
  simp [publicBytes, toLittleEndian, Bytes.ofNat]

end MeshNode.Curve25519
