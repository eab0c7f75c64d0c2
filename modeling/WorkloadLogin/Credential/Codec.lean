import WorkloadLogin.Credential

/-! # Credentials as JSON

The stored form of a credential has every member and admits no other. -/
namespace WorkloadLogin
open Json

namespace InternalData

structure Draft where
  role : Option String := none
  instanceId : Option String := none
  ipAddress : Option String := none

def shape : Shape Draft InternalData where
  blank := {}
  fields := [
    .of "role" Decode.text fun d s => { d with role := some s },
    .of "instance_id" Decode.text fun d s => { d with instanceId := some s },
    .of "ip_address" Decode.text fun d s => { d with ipAddress := some s }]
  close d := do
    let role ← needed "role" d.role
    let instanceId ← needed "instance_id" d.instanceId
    let ipAddress ← needed "ip_address" d.ipAddress
    return { role, instanceId, ipAddress }

def encode (i : InternalData) : Json :=
  .object [("role", .string i.role), ("instance_id", .string i.instanceId),
    ("ip_address", .string i.ipAddress)]

end InternalData

namespace AliasMetadata

structure Draft where
  orgId : Option String := none
  appId : Option String := none
  spaceId : Option String := none
  orgName : Option String := none
  appName : Option String := none
  spaceName : Option String := none

def shape : Shape Draft AliasMetadata where
  blank := {}
  fields := [
    .of "org_id" Decode.text fun d s => { d with orgId := some s },
    .of "app_id" Decode.text fun d s => { d with appId := some s },
    .of "space_id" Decode.text fun d s => { d with spaceId := some s },
    .of "org_name" Decode.text fun d s => { d with orgName := some s },
    .of "app_name" Decode.text fun d s => { d with appName := some s },
    .of "space_name" Decode.text fun d s => { d with spaceName := some s }]
  close d := do
    let orgId ← needed "org_id" d.orgId
    let appId ← needed "app_id" d.appId
    let spaceId ← needed "space_id" d.spaceId
    let orgName ← needed "org_name" d.orgName
    let appName ← needed "app_name" d.appName
    let spaceName ← needed "space_name" d.spaceName
    return { orgId, appId, spaceId, orgName, appName, spaceName }

def encode (m : AliasMetadata) : Json :=
  .object [("org_id", .string m.orgId), ("app_id", .string m.appId),
    ("space_id", .string m.spaceId), ("org_name", .string m.orgName),
    ("app_name", .string m.appName), ("space_name", .string m.spaceName)]

end AliasMetadata

namespace Alias

structure Draft where
  name : Option String := none
  metadata : Option AliasMetadata := none

def shape : Shape Draft Alias where
  blank := {}
  fields := [
    .of "name" Decode.text fun d s => { d with name := some s },
    .of "metadata" AliasMetadata.shape.decode fun d m => { d with metadata := some m }]
  close d := do
    let name ← needed "name" d.name
    let metadata ← needed "metadata" d.metadata
    return { name, metadata }

def encode (a : Alias) : Json :=
  .object [("name", .string a.name), ("metadata", a.metadata.encode)]

end Alias

namespace TokenParams

/-- Members that are absent keep their defaults. -/
def shape : Shape TokenParams TokenParams where
  blank := {}
  fields := [
    .of "policies" Decode.listOfTexts fun t ss => { t with policies := ss },
    .of "ttl" Duration.decode fun t d => { t with ttl := d },
    .of "max_ttl" Duration.decode fun t d => { t with maxTtl := d },
    .of "period" Duration.decode fun t d => { t with period := d },
    .of "bound_cidrs" Decode.listOfTexts fun t ss => { t with boundCidrs := ss }]
  close := .ok

def encode (t : TokenParams) : Json :=
  .object [("policies", .strings t.policies), ("ttl", t.ttl.encode), ("max_ttl", t.maxTtl.encode),
    ("period", t.period.encode), ("bound_cidrs", .strings t.boundCidrs)]

end TokenParams

namespace Credential

structure Draft where
  internalData : Option InternalData := none
  displayName : Option String := none
  appAlias : Option Alias := none
  token : TokenParams := {}

def shape : Shape Draft Credential where
  blank := {}
  fields := [
    .of "internal_data" InternalData.shape.decode fun d i => { d with internalData := some i },
    .of "display_name" Decode.text fun d s => { d with displayName := some s },
    .of "alias" Alias.shape.decode fun d a => { d with appAlias := some a },
    .of "token" TokenParams.shape.decode fun d t => { d with token := t }]
  close d := do
    let internalData ← needed "internal_data" d.internalData
    let displayName ← needed "display_name" d.displayName
    let appAlias ← needed "alias" d.appAlias
    return { internalData, displayName, appAlias, token := d.token }

def decode (v : Json) : Except DecodeError Credential := shape.decode .refused v

def encode (c : Credential) : Json :=
  .object [("internal_data", c.internalData.encode), ("display_name", .string c.displayName),
    ("alias", c.appAlias.encode), ("token", c.token.encode)]

end Credential

namespace LoginRequest

/-- Members that are absent are empty, members that are not declared are passed over. -/
def shape : Shape LoginRequest LoginRequest where
  blank := {}
  fields := [
    .of "role" Decode.text fun r s => { r with role := s },
    .of "cf_instance_cert" Decode.text fun r s => { r with bundle := s },
    .of "signing_time" Decode.text fun r s => { r with signingTime := s },
    .of "signature" Decode.text fun r s => { r with signature := s }]
  openEnded := true
  close := .ok

def decode (v : Json) : Except DecodeError LoginRequest := shape.decode .refused v

def encode (r : LoginRequest) : Json :=
  .object [("role", .string r.role), ("cf_instance_cert", .string r.bundle),
    ("signing_time", .string r.signingTime), ("signature", .string r.signature)]

end LoginRequest
end WorkloadLogin
