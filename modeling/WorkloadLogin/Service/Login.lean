import WorkloadLogin.Service.Client
import WorkloadLogin.Service.CrossCheck

/-! # Login, renewal and configuration

The gates of a login and of a renewal stand in the order in which they are passed; the first that
fails decides the error. Both hold the configuration lock from before they read the configuration
until they end. -/
namespace WorkloadLogin.Service

/-- The stored role of a name, or the error its absence stands for. -/
def findRole (name : String) (absent : Error) : Action Role := do
  match ← orFail .storage (← ask (.readRole name)) with
  | some role => return role
  | none => throw absent

def findConfig (need : ConfigNeed) : Action Config := do
  match ← orFail .storage (← ask .readConfig) with
  | some config => return config
  | none => throw (.notConfigured need)

def checkNetworks (role : Role) (connection : Option Connection) : Except Error Unit :=
  if role.tokenBoundCidrs.isEmpty then .ok ()
  else if connection.any fun c => Constraint.withinAny c.remoteAddress role.tokenBoundCidrs then
    .ok ()
  else .error .permissionDenied

def checkPresent (name value : String) : Except Rejection Unit :=
  if value.isEmpty then .error (.missingField name) else .ok ()

/-- The members of a request besides the role, and its signing time. -/
def checkRequest (request : LoginRequest) : Except Rejection Instant := do
  checkPresent "signature" request.signature
  checkPresent "cf_instance_cert" request.bundle
  checkPresent "signing_time" request.signingTime
  match SigningTime.parse? request.signingTime with
  | some t => .ok t
  | none => .error (.signingTime request.signingTime)

/-- The steps of the verifier, from the bundle to the identity. -/
def verify (config : Config) (request : LoginRequest) (signingTime : Instant) (now : Timestamp) :
    Action Identity := do
  let certs ← orFail refused (← ask (.extract request.bundle))
  let data : SignatureData := ⟨signingTime, request.bundle, request.role⟩
  let signing ← orFail refused (← ask (.checkSignature request.signature data))
  orFail refused (← ask (.checkChain config.identityCaCertificates certs signing now))
  orFail (fun f => .certificate f.text) (← ask (.identify signing))
where
  refused (f : Verifier.Fault) : Error := .rejected (.verification f)

/-- Display names; the platform has just confirmed the records, so a failure is a fault. -/
def lookupNames (client : ClientId) (identity : Identity) : Action PlatformNames := do
  let org ← orFail .platform (← ask (.lookup client .org identity.orgId))
  let app ← orFail .platform (← ask (.lookup client .app identity.appId))
  let space ← orFail .platform (← ask (.lookup client .space identity.spaceId))
  return { orgName := org.name, spaceName := space.name, appName := app.name }

/-- Authenticates an instance and issues its credential. -/
def login (request : LoginRequest) (connection : Option Connection) : Action Credential := do
  let now ← ask .now
  orFail .rejected (checkPresent "role" request.role)
  let role ← findRole request.role (.rejected .unknownRole)
  orFail id (checkNetworks role connection)
  let signingTime ← orFail .rejected (checkRequest request)
  holding .config .shared do
    let config ← findConfig .verifyingCertificates
    orFail (fun v => .rejected (.window v)) (config.signingWindow.check ⟨signingTime, 0⟩ now)
    let identity ← verify config request signingTime now
    let client ← getOrConnect config.platformSettings
    crossCheck client role identity connection
    let names ← lookupNames client identity
    return role.populate (identity.toCredential request.role names)

/-- Checks an issued credential against the present role and platform and gives it the role's
lifetimes. A failed check makes the client unusable, so that the next request connects anew. -/
def renew (credential : Credential) (connection : Option Connection) : Action Credential :=
  holding .config .shared do
    let config ← findConfig .reachingPlatform
    let renewal ← orFail .corruptCredential (RenewalIdentity.ofCredential credential)
    let role ← findRole renewal.role .roleGone
    let client ← getOrConnect config.platformSettings
    tryCatch (crossCheck client role renewal.identity connection) fun e => do
      let _ ← ask (.taint client)
      throw e
    return { credential with token := role.refresh credential.token }

/-- The name itself, if a role of that name is stored. -/
def resolveRole (name : String) : Action String := do
  if name.isEmpty then throw (.rejected .emptyRoleName)
  let _ ← findRole name (.rejected (.invalidRoleName name))
  return name

/-- Replaces the stored configuration by a complete one and drops the client. -/
def writeConfig (config : Config) : Action Unit := do
  match config.gap? with
  | some gap => throw (.rejected (.incompleteConfig gap))
  | none =>
    holding .config .exclusive do
      orFail .storage (← ask (.storeConfig config))
      let _ ← forgetClient

end WorkloadLogin.Service
