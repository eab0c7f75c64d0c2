import WorkloadLogin.Digest.Sha1
import WorkloadLogin.Digest.Sha256
import WorkloadLogin.Digest.Sha512

/-! # Digests

The hash functions that signatures are made over. -/
namespace WorkloadLogin

inductive Digest where
  | sha1
  | sha256
  | sha384
  | sha512
  deriving DecidableEq, Repr

namespace Digest

def hash : Digest → Bytes → Bytes
  | sha1 => Sha1.hash
  | sha256 => Sha256.hash
  | sha384 => Sha512.hash384
  | sha512 => Sha512.hash

/-- Octets of a hash. -/
def size : Digest → Nat
  | sha1 => 20
  | sha256 => 32
  | sha384 => 48
  | sha512 => 64

end Digest
end WorkloadLogin
