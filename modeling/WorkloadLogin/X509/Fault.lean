import WorkloadLogin.Encoding.Pem
import WorkloadLogin.Verifier

/-! # What can be wrong with certificates -/
namespace WorkloadLogin.X509
open Text

/-- The places of a certificate in a chain. -/
inductive Link where
  | identity
  | intermediate
  | root
  deriving DecidableEq, Repr

def Link.name : Link → String
  | .identity => "identity"
  | .intermediate => "intermediate"
  | .root => "root"

/-- The organizational units that carry an identifier. -/
inductive UnitKind where
  | organization
  | space
  | app
  deriving DecidableEq, Repr

def UnitKind.name : UnitKind → String
  | .organization => "organization"
  | .space => "space"
  | .app => "app"

inductive Fault where
  | bundle (e : Pem.Error)
  | bundleCount (n : Nat)
  | unparseable
  /-- Not one CA and one leaf. -/
  | notPair
  | signatureText (e : Base64.Error)
  | unsigned
  | signerNotIdentity
  | roots (e : Pem.Error)
  | noRoots
  | notYetValid (link : Link)
  | expired (link : Link)
  | notIssued
  | unknownAuthority
  | noInstanceId
  | noUnit (unit : UnitKind)
  | notOneUnit (unit : UnitKind)
  | altNames
  | noAddress
  | notOneAddress
  deriving DecidableEq, Repr

namespace Fault

def stage : Fault → Verifier.Stage
  | bundle _ | bundleCount _ | unparseable | notPair | signatureText _ => .malformed
  | unsigned => .signature
  | signerNotIdentity | roots _ | noRoots | notYetValid _ | expired _ | notIssued
  | unknownAuthority => .chain
  | noInstanceId | noUnit _ | notOneUnit _ | altNames | noAddress | notOneAddress => .identity

def message : Fault → String
  | bundle e => "couldn't parse instance certificates: " ++ e.message
  | bundleCount n => "expected 2 instance certificates, but received " ++ decimal n
  | unparseable => "couldn't parse certificate"
  | notPair => "instance certificates must be one CA certificate and one identity certificate"
  | signatureText e => "couldn't decode signature: " ++ e.message
  | unsigned => "none of the given certificates signed the given data"
  | signerNotIdentity => "the signing certificate is not the identity certificate"
  | roots e => "couldn't parse configured CA certificates: " ++ e.message
  | noRoots => "no CA certificates are configured"
  | notYetValid link => link.name ++ " certificate is not yet valid"
  | expired link => link.name ++ " certificate has expired"
  | notIssued => "identity certificate was not issued by the intermediate"
  | unknownAuthority => "x509: certificate signed by unknown authority"
  | noInstanceId => "no instance ID on the certificate"
  | noUnit unit => "no " ++ unit.name ++ " found on the certificate"
  | notOneUnit unit => "expected exactly one " ++ unit.name ++ " on the certificate"
  | altNames => "couldn't read subject alternative names"
  | noAddress => "no IP address on the certificate"
  | notOneAddress => "expected exactly one IP address on the certificate"

def toVerifierFault (f : Fault) : Verifier.Fault := ⟨f.stage, f.message⟩

end Fault
end WorkloadLogin.X509
