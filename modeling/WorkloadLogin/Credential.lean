import WorkloadLogin.Duration

/-! # Credentials

A credential is what a login issues and a renewal extends. It records who logged in under which
role, an alias that is stable for the application, and the limits that the role sets. -/
namespace WorkloadLogin

/-- What is kept beside the credential and given back at renewal. -/
structure InternalData where
  role : String := ""
  instanceId : String := ""
  ipAddress : String := ""
  deriving DecidableEq, Repr, Inhabited

structure AliasMetadata where
  orgId : String := ""
  appId : String := ""
  spaceId : String := ""
  orgName : String := ""
  appName : String := ""
  spaceName : String := ""
  deriving DecidableEq, Repr, Inhabited

structure Alias where
  name : String := ""
  metadata : AliasMetadata := {}
  deriving DecidableEq, Repr, Inhabited

/-- Lifetimes and scope of a credential. -/
structure TokenParams where
  policies : List String := []
  ttl : Duration := {}
  maxTtl : Duration := {}
  period : Duration := {}
  boundCidrs : List String := []
  deriving DecidableEq, Repr, Inhabited

structure Credential where
  internalData : InternalData := {}
  displayName : String := ""
  appAlias : Alias := {}
  token : TokenParams := {}
  deriving DecidableEq, Repr, Inhabited

/-- What an instance presents in order to log in. -/
structure LoginRequest where
  role : String := ""
  bundle : String := ""
  signingTime : String := ""
  signature : String := ""
  deriving DecidableEq, Repr, Inhabited

/-- What the host knows of the caller's connection. -/
structure Connection where
  remoteAddress : String
  deriving DecidableEq, Repr, Inhabited

end WorkloadLogin
