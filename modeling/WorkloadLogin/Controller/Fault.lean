import WorkloadLogin.Http.Exchange
import WorkloadLogin.Platform

/-! # Failures of the controller client

A fault says at which stage a connection or a lookup failed; what the platform's users see of it is
the kind of the stage and a text. -/
namespace WorkloadLogin.Controller
open Http Text

inductive Fault where
  | address (raw : String) (f : AddressFault)
  | notWeb (raw : String)
  /-- Neither a user nor a client is named. -/
  | noAccount
  /-- A trusted certificate that is none. -/
  | untrustable
  | failed (f : Http.Failure)
  /-- The credentials or the token were refused. -/
  | refused (url : Url) (status : Status)
  | unsuccessful (url : Url) (status : Status)
  | unreadable (url : Url)
  | missing (kind : Platform.Kind) (guid : String)
  deriving DecidableEq, Repr

namespace Fault

def answered (url : Url) (status : Status) : String :=
  url.render ++ " answered " ++ status.render

def toError : Fault → Platform.Error
  | address raw f => .invalidSettings ("address " ++ quote raw ++ ": " ++ f.message)
  | notWeb raw => .invalidSettings ("address " ++ quote raw ++ " is not an http(s) URL")
  | noAccount => .invalidSettings "either a username or a client id is required"
  | untrustable => .invalidSettings "builder error"
  | failed f => .transport f.message
  | refused url status => .unauthorized (answered url status)
  | unsuccessful url status => .transport (answered url status)
  | unreadable url => .invalidResponse (url.render ++ ": error decoding response body")
  | missing kind guid => .notFound kind guid

end Fault
end WorkloadLogin.Controller
