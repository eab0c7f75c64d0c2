import WorkloadLogin.Encoding.Bytes
import WorkloadLogin.Identity
import WorkloadLogin.SigningTime

/-! # Verification of a login

Four steps lead from the bundle that an instance presents to its identity: taking the two
certificates out of it, finding the one whose key signed the request, checking that this one
chains to a trusted root, and reading the identity from it. -/
namespace WorkloadLogin
open Text

/-- A certificate as its encoding. -/
structure Certificate where
  der : Bytes
  deriving DecidableEq, Repr, Inhabited

/-- The encoding is left out of what is shown of a certificate. -/
def Certificate.summary (c : Certificate) : String :=
  "Certificate \x7b der_len: " ++ decimal c.der.length ++ ", .. \x7d"

/-- The certificates of a bundle. -/
structure InstanceCertificates where
  /-- The CA certificate of the cell. -/
  intermediate : Certificate
  /-- The leaf that carries the identity. -/
  identity : Certificate
  deriving DecidableEq, Repr, Inhabited

/-- What a login signature covers. -/
structure SignatureData where
  signingTime : Instant
  bundle : String
  role : String
  deriving DecidableEq, Repr

/-- The signed text: canonical signing time, bundle and role in a row. -/
def SignatureData.message (d : SignatureData) : String :=
  SigningTime.canonical d.signingTime ++ d.bundle ++ d.role

namespace Verifier

inductive Stage where
  | malformed
  | signature
  | chain
  | identity
  deriving DecidableEq, Repr

structure Fault where
  stage : Stage
  text : String
  deriving DecidableEq, Repr

end Verifier

structure Verifier where
  extract : String → Except Verifier.Fault InstanceCertificates
  checkSignature : String → SignatureData → Except Verifier.Fault Certificate
  checkChain : List String → InstanceCertificates → Certificate → Timestamp →
    Except Verifier.Fault Unit
  identify : Certificate → Except Verifier.Fault Identity

end WorkloadLogin
