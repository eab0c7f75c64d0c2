import WorkloadLogin.Digest.Sha512
import WorkloadLogin.Signature.PowerMod

/-! # Ed25519

Points of the curve `-x ^ 2 + y ^ 2 = 1 + d * x ^ 2 * y ^ 2` are affine. An encoded point is its
second coordinate, least significant octet first, with the lowest bit of the first coordinate as the
highest bit; a coordinate that is not reduced is read all the same. -/
namespace WorkloadLogin.Ed25519

def prime : Nat := (1 <<< 255) - 19

/-- The order of the group that the base point generates. -/
def order : Nat := (1 <<< 252) + 27742317777372353535851937790883648493

def curveD : Nat := subMod 0 (121665 * inverseMod 121666 prime) prime

abbrev Point := Nat × Nat

def zero : Point := (0, 1)

/-- The sum of any two points; the denominators are never zero. -/
def add (p q : Point) : Point :=
  let (x1, y1) := p
  let (x2, y2) := q
  let t := curveD * (x1 * x2 % prime) * (y1 * y2 % prime) % prime
  ((x1 * y2 + x2 * y1) * inverseMod (1 + t) prime % prime,
    (y1 * y2 + x1 * x2) * inverseMod (subMod 1 t prime) prime % prime)

def negate (p : Point) : Point := (subMod 0 p.1 prime, p.2)

def scale (n : Nat) (p : Point) : Point := repeated zero add n p

/-- A square root of a fraction, where it has one. -/
def root? (u v : Nat) : Option Nat :=
  let cube := v * v * v % prime
  let x := u * cube % prime * powerMod (u * cube * cube * v % prime) ((prime - 5) / 8) prime % prime
  if v * (x * x) % prime = u % prime then some x
  else if v * (x * x) % prime = subMod 0 u prime then
    some (x * powerMod 2 ((prime - 1) / 4) prime % prime)
  else none

def littleEndian (bs : Bytes) : Nat := Bytes.toNat bs.reverse

def decode? (bs : Bytes) : Option Point :=
  let n := littleEndian bs
  let y := n % (1 <<< 255) % prime
  (root? (subMod (y * y) 1 prime) (curveD * (y * y % prime) % prime + 1)).map fun x =>
    (if x % 2 = n / (1 <<< 255) then x else subMod 0 x prime, y)

def encode (p : Point) : Bytes := (Bytes.ofNat 32 (p.2 + p.1 % 2 * (1 <<< 255))).reverse

/-- The base point has the second coordinate four fifths and an even first one. -/
def base : Point :=
  (0x216936d3cd6e53fec0a4e231fdd6dc5c692cc7609525a7b2c9562d608f25d51a,
    0x6666666666666666666666666666666666666666666666666666666666666658)

def verify (key message signature : Bytes) : Bool :=
  let r := signature.take 32
  let s := littleEndian (signature.drop 32)
  if key.length = 32 ∧ signature.length = 64 ∧ s < order then
    match decode? key with
    | some a =>
      let h := littleEndian (Sha512.hash (r ++ key ++ message)) % order
      encode (add (scale s base) (scale h (negate a))) == r
    | none => false
  else false

end WorkloadLogin.Ed25519
