import WorkloadLogin.Constraint
import WorkloadLogin.Service.Request

/-! # Cross-check

The identity must satisfy the role, and the platform must agree with the identity. Every failure
is a rejection, and no lookup is made after the first one. -/
namespace WorkloadLogin.Service

def checkAddress (role : Role) (identity : Identity) (connection : Option Connection) :
    Except Rejection Unit :=
  if role.disableIpMatching then .ok ()
  else if connection.any fun c => Constraint.matchesIp c.remoteAddress identity.ipAddress then
    .ok ()
  else .error .address

def checkBound (id : BoundId) (value : String) (bound : List String) : Except Rejection Unit :=
  if Constraint.meets value bound then .ok () else .error (.unbound id value bound)

/-- The bound lists of a role, in order. -/
def checkBounds (role : Role) (identity : Identity) : Except Rejection Unit := do
  checkBound .instanceId identity.instanceId role.boundInstanceIds
  checkBound .appId identity.appId role.boundAppIds
  checkBound .orgId identity.orgId role.boundOrgIds
  checkBound .spaceId identity.spaceId role.boundSpaceIds

def checkAgreement (id : BoundId) (certificate platform : String) : Except Rejection Unit :=
  if certificate = platform then .ok () else .error (.disagreement id certificate platform)

def checkApp (identity : Identity) (app : Platform.App) : Except Rejection Unit := do
  checkAgreement .appId identity.appId app.guid
  checkAgreement .spaceId identity.spaceId app.spaceGuid
  if app.instances ≤ 0 then .error .noLiveInstances

def checkOrg (identity : Identity) (org : Platform.Org) : Except Rejection Unit :=
  checkAgreement .orgId identity.orgId org.guid

def checkSpace (identity : Identity) (space : Platform.Space) : Except Rejection Unit := do
  checkAgreement .spaceId identity.spaceId space.guid
  checkAgreement .orgId identity.orgId space.organizationGuid

/-- A lookup whose failure is a rejection. -/
def confirm (client : ClientId) (kind : Platform.Kind) (guid : String) : Action kind.Record := do
  orFail (fun e => .rejected (.lookup e)) (← ask (.lookup client kind guid))

def crossCheck (client : ClientId) (role : Role) (identity : Identity)
    (connection : Option Connection) : Action Unit := do
  orFail .rejected (checkAddress role identity connection)
  orFail .rejected (checkBounds role identity)
  let app ← confirm client .app identity.appId
  orFail .rejected (checkApp identity app)
  let org ← confirm client .org identity.orgId
  orFail .rejected (checkOrg identity org)
  let space ← confirm client .space identity.spaceId
  orFail .rejected (checkSpace identity space)

end WorkloadLogin.Service
