import WorkloadLogin.Http.Host

/-! # Addresses of the web

An address is kept in the form in which it is sent: host in ASCII, no `portNumber` that goes
without saying, a path of at least one segment. Path, query, fragment and user information stand as
they are written, percent signs included. -/
namespace WorkloadLogin.Http
open Text

inductive Scheme where
  | http
  | https
  deriving DecidableEq, Repr

namespace Scheme

def word : Scheme → String
  | http => "http"
  | https => "https"

/-- The number that is meant when none is named. -/
def portNumber : Scheme → Nat
  | http => 80
  | https => 443

end Scheme

/-- User information; one of the two is not empty. -/
structure UserInfo where
  username : String
  /-- Never an empty text. -/
  password : Option String
  deriving DecidableEq, Repr

structure Url where
  scheme : Scheme
  userInfo : Option UserInfo := none
  host : Host
  /-- Only one that is not the scheme's own. -/
  portNumber : Option Nat := none
  path : List String := [""]
  query : Option String := none
  fragment : Option String := none
  deriving DecidableEq, Repr

namespace UserInfo

def render (u : UserInfo) : String :=
  u.username ++ ((u.password.map fun p => ":" ++ p).getD "") ++ "@"

end UserInfo

namespace Url

/-- The text of a path: every segment behind a slash. -/
def renderPath (path : List String) : String := String.join (path.map ("/" ++ ·))

def render (u : Url) : String :=
  u.scheme.word ++ "://" ++ (u.userInfo.map UserInfo.render).getD "" ++ u.host.render ++
    (u.portNumber.map fun p => ":" ++ decimal p).getD "" ++ renderPath u.path ++
    (u.query.map ("?" ++ ·)).getD "" ++ (u.fragment.map ("#" ++ ·)).getD ""

/-- Octets of the longest address that goes into a request. -/
def longestSent : Nat := 65534

def fits (u : Url) : Bool := (Bytes.ofText u.render).length ≤ longestSent

/-- Whether requests can be sent to the address. -/
def canBeSent (u : Url) : Bool := u.host.canBeSent && u.fits

def withoutFragment (u : Url) : Url := { u with fragment := none }

/-- Tabs and line ends, which count nowhere in an address. -/
def isStray (c : Char) : Bool := c == '\t' || c == '\n' || c == '\r'

/-- The path that further segments are put behind: a last segment that is empty gives way. -/
def openPath (path : List String) : List String :=
  if path.getLast? = some "" then path.dropLast else path

/-- One more segment that stands for a given text. The texts for the same place and for the
parent add nothing; a text that is one of them once stray characters are gone leaves the path open,
at the same place or at the parent. -/
def addSegment (path : List String) (segment : String) : List String :=
  if segment = "." ∨ segment = ".." then path
  else
    let written :=
      String.ofList (Percent.encode Percent.inSegment (segment.toList.filter fun c => !isStray c))
    let path := if path = [""] then [] else path
    if written = "." then path ++ [""]
    else if written = ".." then path.dropLast ++ [""]
    else path ++ [written]

/-- The address of something below this one. -/
def below (u : Url) (segments : List String) : Url :=
  let opened := openPath u.path
  let path := segments.foldl addSegment opened
  { u with path := if path.isEmpty then [""] else path }

end Url
end WorkloadLogin.Http
