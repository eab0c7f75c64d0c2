import WorkloadLogin.Config
import WorkloadLogin.Verifier

/-! # Errors of the service

A rejection and a denial are verdicts on the request; everything else is a fault of the service or
of what it depends on. Callers outside see verdicts as they are and faults as internal errors. -/
namespace WorkloadLogin.Service
open Text

/-- The identifiers that a role can bind. -/
inductive BoundId where
  | instanceId
  | appId
  | orgId
  | spaceId
  deriving DecidableEq, Repr

def BoundId.name : BoundId → String
  | .instanceId => "instance ID"
  | .appId => "app ID"
  | .orgId => "org ID"
  | .spaceId => "space ID"

inductive Rejection where
  /-- A member of the login request that is empty. -/
  | missingField (name : String)
  | unknownRole
  | emptyRoleName
  | invalidRoleName (name : String)
  | signingTime (raw : String)
  | window (v : SigningWindow.Violation)
  | verification (f : Verifier.Fault)
  | address
  | unbound (id : BoundId) (value : String) (bound : List String)
  | lookup (e : Platform.Error)
  | disagreement (id : BoundId) (certificate platform : String)
  | noLiveInstances
  | incompleteConfig (gap : Config.Gap)
  | other (text : String)
  deriving DecidableEq, Repr

def Rejection.message : Rejection → String
  | missingField name => "'" ++ name ++ "' is required"
  | unknownRole => "no matching role"
  | emptyRoleName => "role is required"
  | invalidRoleName name => "invalid role name " ++ quote name
  | signingTime raw => "couldn't parse " ++ raw
  | window v => v.message
  | verification f => f.text
  | address => "no matching IP address"
  | unbound id value bound =>
    id.name ++ " " ++ value ++ " doesn't match role constraints of " ++ quoteList bound
  | lookup e => e.message
  | disagreement id certificate platform =>
    "cert " ++ id.name ++ " " ++ certificate ++ " doesn't match API's expected one of " ++
      platform
  | noLiveInstances => "app doesn't have any live instances"
  | incompleteConfig gap => gap.message
  | other text => text

/-- What a configuration is missing for. -/
inductive ConfigNeed where
  | verifyingCertificates
  | reachingPlatform
  | other (text : String)
  deriving DecidableEq, Repr

def ConfigNeed.message : ConfigNeed → String
  | verifyingCertificates => "no CA is configured for verifying client certificates"
  | reachingPlatform => "no configuration is available for reaching the CF API"
  | other text => text

inductive Error where
  | rejected (r : Rejection)
  | permissionDenied
  | notConfigured (need : ConfigNeed)
  /-- A field that a credential to be renewed lacks. -/
  | corruptCredential (field : RenewalIdentity.Field)
  | corruptRenewalData (text : String)
  | storage (text : String)
  | platform (e : Platform.Error)
  | certificate (text : String)
  | roleGone
  | internal (text : String)
  deriving DecidableEq, Repr

namespace Error

def message : Error → String
  | rejected r => r.message
  | permissionDenied => "permission denied"
  | notConfigured need => need.message
  | corruptCredential field => field.corruptMessage
  | corruptRenewalData text => text
  | storage text => "storage error: " ++ text
  | platform e => "platform error: " ++ e.message
  | certificate text => "certificate error: " ++ text
  | roleGone => "internal error: no matching role"
  | internal text => "internal error: " ++ text

def isFault : Error → Bool
  | rejected _ | permissionDenied => false
  | _ => true

end Error

/-- What callers outside see of an error. -/
inductive PublicError where
  | rejected (text : String)
  | permissionDenied
  | internal (text : String)
  deriving DecidableEq, Repr

namespace PublicError

def message : PublicError → String
  | rejected text => text
  | permissionDenied => "permission denied"
  | internal text => "internal error: " ++ text

def isRejection : PublicError → Bool
  | internal _ => false
  | _ => true

def ofError : Error → PublicError
  | .rejected r => rejected r.message
  | .permissionDenied => permissionDenied
  | e => internal e.message

end PublicError
end WorkloadLogin.Service
