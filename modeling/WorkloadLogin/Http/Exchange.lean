import WorkloadLogin.Dialogue
import WorkloadLogin.Encoding.Base64
import WorkloadLogin.Http.Form
import WorkloadLogin.Http.Status
import WorkloadLogin.Http.Url

/-! # Requests and replies

A client talks to its peer in exchanges: it sends a request and gets a reply, or learns that there
is none. Some requests cannot even be sent. User information of an address never travels in the
address; it becomes an authorization of the request. -/
namespace WorkloadLogin.Http

inductive Method where
  | get
  | post
  deriving DecidableEq, Repr

def Method.word : Method → String
  | .get => "GET"
  | .post => "POST"

inductive Authorization where
  | basic (user password : String)
  | bearer (token : String)
  deriving DecidableEq, Repr

/-- The value of the header. -/
def Authorization.render : Authorization → String
  | .basic user password =>
    "Basic " ++ String.ofList (Base64.encode .standard (Bytes.ofText (user ++ ":" ++ password)))
  | .bearer token => "Bearer " ++ token

/-- A header holds no control characters but tabs. -/
def Authorization.isLegal : Authorization → Bool
  | .basic _ _ => true
  | .bearer token => token.toList.all fun c => c == '\t' || (32 ≤ c.toNat && c.toNat != 127)

structure Request where
  method : Method
  url : Url
  authorizations : List Authorization := []
  /-- The fields of a form that is sent along. -/
  form : Option (List (String × String)) := none
  deriving DecidableEq, Repr

structure Reply where
  status : Status
  body : String := ""
  deriving DecidableEq, Repr

/-- Why there is no reply. -/
inductive Failure where
  /-- The request cannot be put together. -/
  | unbuilt
  /-- The address cannot be sent. -/
  | unsendable (url : Url)
  | unanswered (url : Url)
  deriving DecidableEq, Repr

def Failure.message : Failure → String
  | .unbuilt => "builder error"
  | .unsendable url => "builder error for url (" ++ url.render ++ ")"
  | .unanswered url => "error sending request for url (" ++ url.render ++ ")"

abbrev Talk := Dialogue Request fun _ => Option Reply

namespace Request

/-- The text that a written part of user information stands for. -/
def plainText? (written : String) : Option String :=
  Bytes.toText? (Percent.decode (Bytes.ofText written))

/-- The request with its address's user information as the first authorization. -/
def withoutUserInfo (r : Request) : Request :=
  match r.url.userInfo with
  | none => r
  | some u =>
    match plainText? u.username, u.password.bind plainText? with
    | none, _ => r
    | some user, password =>
      if user.isEmpty && password.isNone then r
      else
        { r with
          url := { r.url with userInfo := none }
          authorizations := .basic user (password.getD "") :: r.authorizations }

/-- Sends a request and waits for the reply. -/
def exchange (r : Request) : Talk (Except Failure Reply) :=
  let r := r.withoutUserInfo
  if !r.authorizations.all Authorization.isLegal then pure (.error .unbuilt)
  else if !r.url.canBeSent then pure (.error (.unsendable r.url))
  else do
    match ← Dialogue.question (A := fun _ => Option Reply) r with
    | some reply => return .ok reply
    | none => return .error (.unanswered r.url)

end Request

/-- Who answers requests, and how answering changes them. -/
structure Peer (σ : Type) where
  answer : Request → σ → Option Reply × σ

namespace Peer
variable {σ α : Type}

/-- A conversation with a peer. -/
def talk (p : Peer σ) (x : Talk α) (s : σ) : α × σ := x.run p.answer s

/-- A peer whose hosts cannot be reached. -/
def unreachable : Peer σ := ⟨fun _ s => (none, s)⟩

end Peer
end WorkloadLogin.Http
