import WorkloadLogin.Platform
import WorkloadLogin.Role
import WorkloadLogin.SigningWindow
import WorkloadLogin.Text.Blank

/-! # Configuration

The backend configuration names the trusted identity roots, the access to the platform and how far
a signing time may lie from the present. The module configuration adds the roles known at start. -/
namespace WorkloadLogin
open Text

structure Config where
  /-- PEM texts of identity roots, each with any number of certificates. -/
  identityCaCertificates : List String := []
  apiAddress : String := ""
  username : String := ""
  password : Option String := none
  clientId : String := ""
  clientSecret : Option String := none
  apiTrustedCertificates : List String := []
  /-- Bound on a platform request in seconds; zero sets none. -/
  timeoutSecs : UInt64 := 0
  maxSecondsNotBefore : UInt64 := 300
  maxSecondsNotAfter : UInt64 := 60
  deriving DecidableEq, Repr, Inhabited

namespace Config

/-- What a configuration lacks for logins to work. -/
inductive Gap where
  | identityCaCertificates
  | apiAddress
  | account
  deriving DecidableEq, Repr

def Gap.message : Gap → String
  | .identityCaCertificates => "missing identity_ca_certificates"
  | .apiAddress => "missing cf_api_addr"
  | .account => "either cf_username or cf_client_id is required"

/-- The first thing that is lacking. -/
def gap? (c : Config) : Option Gap :=
  if c.identityCaCertificates.all allBlank then some .identityCaCertificates
  else if allBlank c.apiAddress then some .apiAddress
  else if c.username.isEmpty && c.clientId.isEmpty then some .account
  else none

def signingWindow (c : Config) : SigningWindow :=
  ⟨.ofSeconds c.maxSecondsNotBefore, .ofSeconds c.maxSecondsNotAfter⟩

def platformSettings (c : Config) : Platform.Settings where
  apiAddress := c.apiAddress
  username := c.username
  password := c.password
  clientId := c.clientId
  clientSecret := c.clientSecret
  trustedCertificates := c.apiTrustedCertificates
  timeout := if c.timeoutSecs = 0 then none else some (.ofSeconds c.timeoutSecs)

end Config

structure ModuleConfig where
  backend : Option Config := none
  /-- Roles under their names, ascending. -/
  roles : List (String × Role) := []
  deriving DecidableEq, Repr, Inhabited

end WorkloadLogin
