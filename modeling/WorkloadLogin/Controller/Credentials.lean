import WorkloadLogin.Controller.Fault
import WorkloadLogin.Encoding.PemSections
import WorkloadLogin.Http.Url.Reader
import WorkloadLogin.X509.TrustAnchor

/-! # What a controller is reached with

A user logs in through a client, which is the one of the command line tool unless another is named;
without a user the client logs in for itself. -/
namespace WorkloadLogin.Controller
open Http

inductive Grant where
  | password (username password : String)
  | clientCredentials
  deriving DecidableEq, Repr

structure Credentials where
  clientId : String
  clientSecret : String
  grant : Grant
  deriving DecidableEq, Repr

/-- The client that the command line tool logs in through. -/
def toolClientId : String := "cf"

namespace Credentials

def ofSettings (s : Platform.Settings) : Except Fault Credentials :=
  let secret := s.clientSecret.getD ""
  if !s.username.isEmpty then
    .ok
      { clientId := if s.clientId.isEmpty then toolClientId else s.clientId
        clientSecret := secret
        grant := .password s.username (s.password.getD "") }
  else if !s.clientId.isEmpty then .ok ⟨s.clientId, secret, .clientCredentials⟩
  else .error .noAccount

/-- The form of a token request. -/
def form (c : Credentials) : List (String × String) :=
  match c.grant with
  | .password username password =>
    [("grant_type", "password"), ("username", username), ("password", password)]
  | .clientCredentials => [("grant_type", "client_credentials")]

end Credentials

/-- An address that requests can be sent below. -/
def baseAddress (raw : String) : Except Fault Url :=
  match Url.read raw with
  | .error f => .error (.address raw f)
  | .ok .elsewhere => .error (.notWeb raw)
  | .ok (.web u) => .ok u

/-- Whether every certificate of a text can be trusted in the first place. -/
def isTrustable (text : String) : Bool :=
  match PemSections.certificates? text with
  | none => false
  | some ders => ders.all X509.TrustAnchor.accepts

def checkTrust (s : Platform.Settings) : Except Fault Unit :=
  if s.trustedCertificates.all isTrustable then .ok () else .error .untrustable

end WorkloadLogin.Controller
