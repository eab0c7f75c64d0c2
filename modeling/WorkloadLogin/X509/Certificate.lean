import WorkloadLogin.X509.AltName
import WorkloadLogin.X509.BasicConstraints
import WorkloadLogin.X509.Extension
import WorkloadLogin.X509.Key
import WorkloadLogin.X509.Time

/-! # X.509 certificates

The parts of a certificate that logins depend on. Contents after the last expected part of a
sequence are passed over. -/
namespace WorkloadLogin.X509

/-- The closed interval of Unix seconds in which a certificate is valid. -/
structure Validity where
  notBefore : Int
  notAfter : Int
  deriving DecidableEq, Repr

def Validity.read : Read Validity := fun bs => do
  let (e, rest) ← sequence bs
  let (notBefore, c) ← readTime e.contents
  let (notAfter, _) ← readTime c
  return (⟨notBefore, notAfter⟩, rest)

structure Certificate where
  /-- The octets that the certificate's signature covers. -/
  signedPart : Bytes
  issuer : Name
  validity : Validity
  subject : Name
  key : PublicKeyInfo
  extensions : List Extension
  signatureAlgorithm : AlgorithmId
  signature : Bytes
  deriving DecidableEq, Repr

namespace Certificate

/-- An optional unique identifier of that number. What has another number, or does not read, is
left for the extensions. -/
def skipUniqueId (number : Nat) (bs : Bytes) : Option Bytes :=
  match Der.readHeader bs with
  | none => some bs
  | some (tag, _, _) =>
    if tag.number ≠ number then some bs
    else if tag.family ≠ 2 ∨ tag.constructed then none
    else do
      let (e, rest) ← Der.read bs
      let _ ← octetsOfBits? e.contents
      return rest

def parse? (der : Bytes) : Option Certificate := do
  let (outer, _) ← sequence der
  let (tbs, afterTbs) ← sequence outer.contents
  let (_, c) ← optional 0 natural tbs.contents
  let c ← Der.skipOpen Der.integerTag c
  let (_, c) ← AlgorithmId.read c
  let (issuer, c) ← Name.read c
  let (validity, c) ← Validity.read c
  let (subject, c) ← Name.read c
  let (key, c) ← PublicKeyInfo.read c
  let c ← skipUniqueId 1 c
  let c ← skipUniqueId 2 c
  let extensions ← Extension.readAll c
  let (signatureAlgorithm, rest) ← AlgorithmId.read afterTbs
  let (signature, _) ← bitString rest
  return {
    signedPart := tbs.encoded, issuer, validity, subject, key, extensions, signatureAlgorithm,
    signature }

/-- The extensions of one kind. -/
def extensionsOf (c : Certificate) (oid : Bytes) : List Extension :=
  c.extensions.filter fun x => x.oid == oid

/-- A CA certificate has exactly one basic constraints extension, and it says so. -/
def isCa (c : Certificate) : Bool :=
  match c.extensionsOf Extension.basicConstraints with
  | [x] => BasicConstraints.marksCa x.value
  | _ => false

/-- The alternative names; more than one such extension, or one that does not read, is refused. -/
def altNames? (c : Certificate) : Option (List AltName) :=
  match c.extensionsOf Extension.subjectAltName with
  | [] => some []
  | [x] => AltName.readAll x.value
  | _ => none

end Certificate

end WorkloadLogin.X509
