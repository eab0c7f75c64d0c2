import WorkloadLogin.Controller.Credentials
import WorkloadLogin.Controller.Wire
import WorkloadLogin.Json.Reader

/-! # The controller client

Connecting asks the controller where tokens are handed out and fetches one. A lookup is one request
with that token; when the token is refused, a new one is fetched and the request sent once more. -/
namespace WorkloadLogin.Controller
open Http Platform

/-- A conversation that may fail. -/
abbrev Action : Type → Type := ExceptT Fault Http.Talk

structure Client where
  api : Url
  tokenUrl : Url
  credentials : Credentials
  token : String
  deriving DecidableEq, Repr

def orFail {α : Type} : Except Fault α → Action α
  | .ok a => pure a
  | .error f => throw f

/-- The reply to a request. -/
def send (r : Request) : Action Reply := do
  match ← ExceptT.lift r.exchange with
  | .ok reply => return reply
  | .error f => throw (.failed f)

/-- The value that a reply from `url` carries. -/
def readReply {α : Type} (url : Url) (d : Json.Decoder α) (reply : Reply) : Except Fault α :=
  if reply.status = .unauthorized ∨ reply.status = .forbidden then
    .error (.refused url reply.status)
  else if !reply.status.isSuccess then .error (.unsuccessful url reply.status)
  else
    match Json.read? reply.body with
    | none => .error (.unreadable url)
    | some v => (d .refused v).mapError fun _ => .unreadable url

def fetchToken (tokenUrl : Url) (c : Credentials) : Action String := do
  let reply ← send
    { method := .post
      url := tokenUrl
      authorizations := [.basic c.clientId c.clientSecret]
      form := some c.form }
  orFail (readReply tokenUrl Wire.accessToken.decode reply)

def connect (settings : Settings) : Action Client := do
  let api ← orFail (baseAddress settings.apiAddress)
  let credentials ← orFail (Credentials.ofSettings settings)
  orFail (checkTrust settings)
  let infoUrl := api.below ["v2", "info"]
  let reply ← send { method := .get, url := infoUrl }
  let endpoint ← orFail (readReply infoUrl Wire.tokenEndpoint.decode reply)
  let tokenUrl := (← orFail (baseAddress endpoint)).below ["oauth", "token"]
  let token ← fetchToken tokenUrl credentials
  return { api, tokenUrl, credentials, token }

/-- The part of the controller's address space that holds records of a kind. -/
def collection : Kind → String
  | .app => "apps"
  | .org => "organizations"
  | .space => "spaces"

namespace Client

/-- The client as it may be shown: without credentials and token. -/
def describe (c : Client) : String :=
  "CloudControllerClient \x7b api: " ++ Text.quote c.api.render ++ ", token_url: " ++
    Text.quote c.tokenUrl.render ++ ", .. \x7d"

def recordUrl (c : Client) (kind : Kind) (guid : String) : Url :=
  c.api.below ["v2", collection kind, guid]

/-- Sends the request for a record with the present token. -/
def requestRecord (c : Client) (kind : Kind) (guid : String) : Http.Talk (Except Failure Reply) :=
  Request.exchange
    { method := .get, url := c.recordUrl kind guid, authorizations := [.bearer c.token] }

/-- What the last reply of a lookup says. -/
def settle (c : Client) (kind : Kind) (guid : String) :
    Except Failure Reply → Except Fault kind.Record
  | .error f => .error (.failed f)
  | .ok reply =>
    if reply.status = .notFound then .error (.missing kind guid)
    else readReply (c.recordUrl kind guid) (Wire.resource kind).decode reply

/-- Whether a reply refuses the token. -/
def refusesToken : Except Failure Reply → Bool
  | .ok reply => reply.status == .unauthorized
  | .error _ => false

/-- Looks up a record; the client it ends with has the token that was fetched last. -/
def lookup (c : Client) (kind : Kind) (guid : String) :
    Http.Talk (Except Fault kind.Record × Client) := do
  let first ← c.requestRecord kind guid
  if refusesToken first then
    match ← (fetchToken c.tokenUrl c.credentials).run with
    | .error f => return (.error f, c)
    | .ok token =>
      let c := { c with token }
      let second ← c.requestRecord kind guid
      return (c.settle kind guid second, c)
  else return (c.settle kind guid first, c)

end Client
end WorkloadLogin.Controller
