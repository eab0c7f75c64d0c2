import WorkloadLogin.Duration
import WorkloadLogin.Text.Quoted

/-! # The platform behind the instances

A platform keeps records of applications, organizations and spaces under their GUIDs and confirms
what a certificate claims; identity is never taken from it. -/
namespace WorkloadLogin.Platform

structure App where
  guid : String
  name : String
  spaceGuid : String
  /-- Running instances that the platform knows of. -/
  instances : Int
  deriving DecidableEq, Repr, Inhabited

structure Org where
  guid : String
  name : String
  deriving DecidableEq, Repr, Inhabited

structure Space where
  guid : String
  name : String
  organizationGuid : String
  deriving DecidableEq, Repr, Inhabited

inductive Kind where
  | app
  | org
  | space
  deriving DecidableEq, Repr

abbrev Kind.Record : Kind → Type
  | .app => App
  | .org => Org
  | .space => Space

/-- The word for a record of this kind in messages. -/
def Kind.noun : Kind → String
  | .app => "app"
  | .org => "organization"
  | .space => "space"

inductive Error where
  | notFound (kind : Kind) (guid : String)
  /-- The credentials were refused. -/
  | unauthorized (text : String)
  /-- No answer, or an answer with an error status. -/
  | transport (text : String)
  /-- An answer whose body could not be understood. -/
  | invalidResponse (text : String)
  /-- Settings that no connection can be made with. -/
  | invalidSettings (text : String)
  deriving DecidableEq, Repr, Inhabited

def Error.message : Error → String
  | .notFound kind guid => kind.noun ++ " " ++ guid ++ " not found"
  | .unauthorized text => "unauthorized: " ++ text
  | .transport text => "platform request failed: " ++ text
  | .invalidResponse text => "invalid platform response: " ++ text
  | .invalidSettings text => "invalid platform settings: " ++ text

/-- What a connection to the platform is made with. -/
structure Settings where
  apiAddress : String := ""
  username : String := ""
  password : Option String := none
  clientId : String := ""
  clientSecret : Option String := none
  /-- PEM texts of roots that are trusted besides the usual ones. -/
  trustedCertificates : List String := []
  /-- Bound on each request; none keeps the transport's own. -/
  timeout : Option Duration := none
  deriving DecidableEq, Repr, Inhabited

/-- The answer to a lookup. -/
abbrev Found (kind : Kind) : Type := Except Error kind.Record

end WorkloadLogin.Platform
