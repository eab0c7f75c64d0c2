import WorkloadLogin.Digest
import WorkloadLogin.Encoding.Der
import WorkloadLogin.Signature.PowerMod

/-! # ECDSA

Points are affine; a key is an uncompressed point of the curve and a signature a pair of numbers
from one to the group order. -/
namespace WorkloadLogin.Ecdsa

/-- A curve `y ^ 2 = x ^ 3 - 3 * x + b` whose points are the multiples of one. -/
structure Curve where
  prime : Nat
  b : Nat
  order : Nat
  generator : Nat × Nat
  /-- Octets of a coordinate. -/
  size : Nat
  deriving DecidableEq, Repr

def p256 : Curve where
  prime := 0xffffffff00000001000000000000000000000000ffffffffffffffffffffffff
  b := 0x5ac635d8aa3a93e7b3ebbd55769886bc651d06b0cc53b0f63bce3c3e27d2604b
  order := 0xffffffff00000000ffffffffffffffffbce6faada7179e84f3b9cac2fc632551
  generator := (0x6b17d1f2e12c4247f8bce6e563a440f277037d812deb33a0f4a13945d898c296,
    0x4fe342e2fe1a7f9b8ee7eb4a7c0f9e162bce33576b315ececbb6406837bf51f5)
  size := 32

namespace P384

def b : Nat :=
  0xb3312fa7e23ee7e4988e056be3f82d19181d9c6efe8141120314088f5013875ac656398d8a2ed19d2a85c8edd3ec2aef

def order : Nat :=
  0xffffffffffffffffffffffffffffffffffffffffffffffffc7634d81f4372ddf581a0db248b0a77aecec196accc52973

def generatorX : Nat :=
  0xaa87ca22be8b05378eb1c71ef320ad746e1d3b628ba79b9859f741e082542a385502f25dbf55296c3a545e3872760ab7

def generatorY : Nat :=
  0x3617de4a96262c6f5d9e98bf9292dc29f8f41dbd289a147ce9da3113b5f0b8c00a60b1ce1d7e819d7a431d7c90ea0e5f

end P384

def p384 : Curve where
  prime := (1 <<< 384) - (1 <<< 128) - (1 <<< 96) + (1 <<< 32) - 1
  b := P384.b
  order := P384.order
  generator := (P384.generatorX, P384.generatorY)
  size := 48

/-- The point at infinity is `none`. -/
abbrev Point := Option (Nat × Nat)

namespace Curve
variable (c : Curve)

/-- The third point of the line of that slope, reflected. -/
def chord (slope x1 y1 x2 : Nat) : Point :=
  let x := subMod (subMod (slope * slope) x1 c.prime) x2 c.prime
  some (x, subMod (slope * subMod x1 x c.prime) y1 c.prime)

def add : Point → Point → Point
  | none, q => q
  | p, none => p
  | some (x1, y1), some (x2, y2) =>
    if x1 ≠ x2 then
      c.chord (subMod y2 y1 c.prime * inverseMod (subMod x2 x1 c.prime) c.prime % c.prime) x1 y1 x2
    else if y1 = y2 ∧ y1 ≠ 0 then
      c.chord ((3 * x1 * x1 + (c.prime - 3)) * inverseMod (2 * y1) c.prime % c.prime) x1 y1 x1
    else none

def scale (n : Nat) (p : Point) : Point := repeated none c.add n p

def holds (x y : Nat) : Bool :=
  x < c.prime && y < c.prime &&
    y * y % c.prime == (x * x * x + (c.prime - 3) * x + c.b) % c.prime

def readKey? (bs : Bytes) : Option Point :=
  match bs with
  | 4 :: rest =>
    let x := Bytes.toNat (rest.take c.size)
    let y := Bytes.toNat (rest.drop c.size)
    if rest.length = 2 * c.size ∧ c.holds x y then some (some (x, y)) else none
  | _ => none

/-- Of a hash no more octets count than the order has. -/
def verify (d : Digest) (keyBits message signature : Bytes) : Bool :=
  match c.readKey? keyBits, Der.readNaturalPair signature with
  | some q, some (r, s) =>
    if 1 ≤ r ∧ r < c.order ∧ 1 ≤ s ∧ s < c.order then
      let z := Bytes.toNat ((d.hash message).take c.size)
      let w := inverseMod s c.order
      match c.add (c.scale (z * w % c.order) (some c.generator)) (c.scale (r * w % c.order) q) with
      | some (x, _) => x % c.order == r
      | none => false
    else false
  | _, _ => false

end Curve
end WorkloadLogin.Ecdsa
