import WorkloadLogin.Digest
import WorkloadLogin.Encoding.Der
import WorkloadLogin.Signature.PowerMod

/-! # RSA signatures

Certificates are signed with the block padding of PKCS #1 or with PSS, logins with PSS over
SHA-256. A value to verify has exactly as many octets as the modulus. That of a certificate is below
the modulus; that of a login counts modulo it. -/
namespace WorkloadLogin.Rsa

structure PublicKey where
  modulus : Nat
  exponent : Nat
  deriving DecidableEq, Repr

namespace PublicKey

def bits (k : PublicKey) : Nat := if k.modulus = 0 then 0 else k.modulus.log2 + 1

/-- Octets of the modulus. -/
def size (k : PublicKey) : Nat := (k.bits + 7) / 8

end PublicKey

/-- The octets that a signature value opens to. -/
def opened? (k : PublicKey) (signature : Bytes) : Option Bytes :=
  if signature.length = k.size then
    some (Bytes.ofNat k.size (powerMod (Bytes.toNat signature) k.exponent k.modulus))
  else none

/-! ## Paddings -/

/-- What stands in front of the hash in a signed block: the name of the digest. -/
def header : Digest → Bytes
  | .sha1 => [0x30, 0x21, 0x30, 0x09, 0x06, 0x05, 0x2b, 0x0e, 0x03, 0x02, 0x1a, 0x05, 0x00, 0x04,
      0x14]
  | .sha256 => [0x30, 0x31, 0x30, 0x0d, 0x06, 0x09, 0x60, 0x86, 0x48, 0x01, 0x65, 0x03, 0x04, 0x02,
      0x01, 0x05, 0x00, 0x04, 0x20]
  | .sha384 => [0x30, 0x41, 0x30, 0x0d, 0x06, 0x09, 0x60, 0x86, 0x48, 0x01, 0x65, 0x03, 0x04, 0x02,
      0x02, 0x05, 0x00, 0x04, 0x30]
  | .sha512 => [0x30, 0x51, 0x30, 0x0d, 0x06, 0x09, 0x60, 0x86, 0x48, 0x01, 0x65, 0x03, 0x04, 0x02,
      0x03, 0x05, 0x00, 0x04, 0x40]

/-- The block that a signature over `message` opens to. -/
def block (d : Digest) (size : Nat) (message : Bytes) : Bytes :=
  let info := header d ++ d.hash message
  0 :: 1 :: List.replicate (size - info.length - 3) 0xff ++ 0 :: info

/-- A mask of `length` octets drawn from a seed. -/
def mask (d : Digest) (seed : Bytes) (length : Nat) : Bytes :=
  ((List.range (length / d.size + 1)).flatMap fun i => d.hash (seed ++ Bytes.ofNat 4 i)).take length

/-- Octets of the encoded message under a key: one bit fewer than the modulus. -/
def encodedLength (k : PublicKey) : Nat := (k.bits - 1 + 7) / 8

/-- The encoded message `em` of `bits` bits carries the hash, with a salt of that length. -/
def pssMatches (d : Digest) (hash em : Bytes) (bits saltLength : Nat) : Bool :=
  let free := 8 * em.length - bits
  if em.length < saltLength + d.size + 2 ∨ em.getLast? ≠ some 0xbc then false
  else
    let masked := em.take (em.length - d.size - 1)
    let h := (em.drop (em.length - d.size - 1)).take d.size
    if Bytes.toNat (masked.take 1) ≥ 1 <<< (8 - free) then false
    else
      let db := List.zipWith (fun x y => x ^^^ y) masked (mask d h masked.length)
      let db := match db with
        | b :: bs => UInt8.ofNat (b.toNat % (1 <<< (8 - free))) :: bs
        | [] => []
      let zeros := db.length - saltLength - 1
      let salt := db.drop (zeros + 1)
      (db.take zeros).all (· == 0) && db[zeros]? == some 1 &&
        d.hash (List.replicate 8 0 ++ hash ++ salt) == h

/-! ## Certificates -/

/-- The smallest modulus that a certificate may be signed with, in bits. -/
def fewestBits : Digest → Nat
  | .sha1 => 1024
  | _ => 2048

/-- The key in the bit string of a certificate: a modulus of whole octets up to 8192 bits. -/
def certificateKey? (d : Digest) (bs : Bytes) : Option PublicKey := do
  let (n, e) ← Der.readNaturalPair bs
  let k : PublicKey := ⟨n, e⟩
  if n % 2 = 1 ∧ k.size * 8 ≥ fewestBits d ∧ k.bits ≤ 8192 ∧ e % 2 = 1 ∧ 3 ≤ e ∧
      e < 0x200000000 then some k
  else none

/-- Verification of a certificate's signature under the key in `keyBits`, by what a value opens
to. -/
def verifyOpened (d : Digest) (keyBits signature : Bytes) (accepts : PublicKey → Bytes → Bool) :
    Bool :=
  match certificateKey? d keyBits with
  | some k => Bytes.toNat signature < k.modulus && (opened? k signature).any (accepts k)
  | none => false

/-- A certificate signed with the block padding. -/
def verifyBlock (d : Digest) (keyBits message signature : Bytes) : Bool :=
  verifyOpened d keyBits signature fun k octets => octets == block d k.size message

/-- A certificate signed with PSS, whose salt is as long as the hash. What stands before the encoded
message is zero. -/
def verifyCertificatePss (d : Digest) (keyBits message signature : Bytes) : Bool :=
  verifyOpened d keyBits signature fun k octets =>
    let before := k.size - encodedLength k
    (octets.take before).all (· == 0) &&
      pssMatches d (d.hash message) (octets.drop before) (k.bits - 1) d.size

/-! ## Logins -/

/-- PSS with SHA-256 over a message of that hash. What stands before the encoded message does not
count. -/
def verifyPss (k : PublicKey) (saltLength : Nat) (hash signature : Bytes) : Bool :=
  match opened? k signature with
  | some em => pssMatches .sha256 hash (em.drop (k.size - encodedLength k)) (k.bits - 1) saltLength
  | none => false

end WorkloadLogin.Rsa
