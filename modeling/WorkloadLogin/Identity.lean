import WorkloadLogin.Credential
import WorkloadLogin.Text.Quoted

/-! # Instance identities

An identity is read from a certificate at login and recovered from the credential at renewal. -/
namespace WorkloadLogin
open Text

structure Identity where
  instanceId : String
  orgId : String
  spaceId : String
  appId : String
  ipAddress : String
  deriving DecidableEq, Repr, Inhabited

/-- Display names that the platform gives at login. -/
structure PlatformNames where
  orgName : String := ""
  spaceName : String := ""
  appName : String := ""
  deriving DecidableEq, Repr, Inhabited

/-- An identity and the role it logged in under. -/
structure RenewalIdentity where
  role : String
  identity : Identity
  deriving DecidableEq, Repr, Inhabited

namespace Identity

/-- The credential of this identity under a role, its token block left blank. -/
def toCredential (i : Identity) (role : String) (names : PlatformNames) : Credential where
  internalData := ⟨role, i.instanceId, i.ipAddress⟩
  displayName := i.instanceId
  appAlias :=
    { name := i.appId
      metadata :=
        { orgId := i.orgId
          appId := i.appId
          spaceId := i.spaceId
          orgName := names.orgName
          appName := names.appName
          spaceName := names.spaceName } }
  token := {}

end Identity

namespace RenewalIdentity

/-- The fields that a credential must have for its renewal, in the order they are looked at. -/
inductive Field where
  | role
  | instanceId
  | ipAddress
  | orgId
  | appId
  | spaceId
  deriving DecidableEq, Repr

def Field.name : Field → String
  | .role => "role"
  | .instanceId => "instance_id"
  | .ipAddress => "ip_address"
  | .orgId => "org_id"
  | .appId => "app_id"
  | .spaceId => "space_id"

def Field.corruptMessage (f : Field) : String :=
  "unable to retrieve " ++ quote f.name ++ " during renewal, not a string"

def required (f : Field) (s : String) : Except Field String :=
  if s.isEmpty then .error f else .ok s

/-- The identity recorded in a credential, or the first field that is empty. -/
def ofCredential (c : Credential) : Except Field RenewalIdentity := do
  let role ← required .role c.internalData.role
  let instanceId ← required .instanceId c.internalData.instanceId
  let ipAddress ← required .ipAddress c.internalData.ipAddress
  let orgId ← required .orgId c.appAlias.metadata.orgId
  let appId ← required .appId c.appAlias.metadata.appId
  let spaceId ← required .spaceId c.appAlias.metadata.spaceId
  return ⟨role, ⟨instanceId, orgId, spaceId, appId, ipAddress⟩⟩

end RenewalIdentity
end WorkloadLogin
