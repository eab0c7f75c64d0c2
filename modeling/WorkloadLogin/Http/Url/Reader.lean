import WorkloadLogin.Http.Url

/-! # Reading addresses of the web

Stray characters and blanks around an address do not count. The scheme decides how the rest is
taken; of addresses outside the web only what could be wrong with their host is looked at. -/
namespace WorkloadLogin.Http.Url
open Text

/-- What comes out of a readable address: one of the web, or one that leads elsewhere. -/
inductive Reading where
  | web (u : Url)
  | elsewhere
  deriving DecidableEq, Repr

def isLetter (c : Char) : Bool := ('a' ≤ c && c ≤ 'z') || ('A' ≤ c && c ≤ 'Z')

/-- The scheme in small letters, and what follows its colon. -/
def splitScheme? (cs : List Char) : Option (List Char × List Char) :=
  let isPart (c : Char) : Bool := isLetter c || isDigit c || ['+', '-', '.'].contains c
  let scheme := cs.takeWhile isPart
  match cs.dropWhile isPart with
  | ':' :: rest => if scheme.head?.any isLetter then some (scheme.map Char.toLower, rest) else none
  | _ => none

def isSlash (c : Char) : Bool := c == '/' || c == '\\'

/-- Whether a character ends the authority; a reversed slash does not do so everywhere. -/
def endsAuthority (web : Bool) (c : Char) : Bool :=
  c == '/' || c == '?' || c == '#' || (web && c == '\\')

/-- What stands before the last `@` of a text, if there is one, and what follows it. -/
def splitUserInfo (cs : List Char) : Option (List Char) × List Char :=
  let back := cs.reverse
  match back.dropWhile (· != '@') with
  | _ :: front => (some front.reverse, (back.takeWhile (· != '@')).reverse)
  | [] => (none, cs)

def readUserInfo (cs : List Char) : Option UserInfo :=
  let write (cs : List Char) : String := String.ofList (Percent.encode Percent.inUserInfo cs)
  let username := cs.takeWhile (· != ':')
  let password := (cs.dropWhile (· != ':')).drop 1
  if username.isEmpty && password.isEmpty then none
  else some ⟨write username, if password.isEmpty then none else some (write password)⟩

/-- Host and `portNumber` of an authority. A colon between brackets is part of the host. -/
def splitPortNumber (inBrackets : Bool) : List Char → List Char × Option (List Char)
  | [] => ([], none)
  | c :: cs =>
    if c == ':' && !inBrackets then ([], some cs)
    else
      let (host, number) := splitPortNumber (if c == '[' then true else if c == ']' then false
        else inBrackets) cs
      (c :: host, number)

def readPortNumber (cs : List Char) : Except AddressFault (Option Nat) :=
  if !cs.all isDigit || foldDigits cs > 65535 then .error .portNumber
  else .ok (if cs.isEmpty then none else some (foldDigits cs))

structure Authority where
  userInfo : Option (List Char)
  host : List Char
  portNumber : Option (List Char)

/-- The authority at the head of a text and what follows it. -/
def splitAuthority (web : Bool) (cs : List Char) : Except AddressFault (Authority × List Char) :=
  let authority := cs.takeWhile fun c => !endsAuthority web c
  let rest := cs.dropWhile fun c => !endsAuthority web c
  let (userInfo, place) := splitUserInfo authority
  if userInfo = some [] ∧ place.isEmpty ∧ !rest.isEmpty then .error .emptyHost
  else
    let (host, number) := splitPortNumber false place
    .ok (⟨userInfo, host, number⟩, rest)

def isSame (segment : List Char) : Bool :=
  [".", "%2e"].contains (String.ofList (segment.map Char.toLower))

def isParent (segment : List Char) : Bool :=
  ["..", ".%2e", "%2e.", "%2e%2e"].contains (String.ofList (segment.map Char.toLower))

/-- The path without steps to the same place and to the parent. `back` holds the segments before,
last one first. -/
def resolve (back : List String) : List (List Char) → List String
  | [] => back.reverse
  | [s] =>
    if isParent s then ("" :: back.drop 1).reverse
    else if isSame s then ("" :: back).reverse
    else (String.ofList s :: back).reverse
  | s :: rest =>
    if isParent s then resolve (back.drop 1) rest
    else if isSame s then resolve back rest
    else resolve (String.ofList s :: back) rest

def readPath (cs : List Char) : List String :=
  let cs := match cs with
    | c :: rest => if isSlash c then rest else cs
    | [] => []
  let segments := (cs.map fun c => if c == '\\' then '/' else c).splitOn '/'
  resolve [] (segments.map (Percent.encode Percent.inPath))

/-- Path, query and fragment behind an authority. -/
def readRest (cs : List Char) : List String × Option String × Option String :=
  let write (reserved : Char → Bool) (cs : List Char) : Option String :=
    if cs.isEmpty then none else some (String.ofList (Percent.encode reserved (cs.drop 1)))
  let path := cs.takeWhile fun c => c != '?' && c != '#'
  let cs := cs.dropWhile fun c => c != '?' && c != '#'
  (readPath path, write Percent.inQuery (cs.takeWhile (· != '#')),
    write Percent.inFragment (cs.dropWhile (· != '#')))

/-- An address of the web from what follows the colon of its scheme. -/
def readWeb (scheme : Scheme) (cs : List Char) : Except AddressFault Url := do
  let (a, rest) ← splitAuthority true (cs.dropWhile isSlash)
  let host ← Host.read a.host
  let portNumber ← readPortNumber (a.portNumber.getD [])
  let (path, query, fragment) := readRest rest
  return {
    scheme, host, path, query, fragment
    userInfo := a.userInfo.bind readUserInfo
    portNumber := portNumber.filter (· != scheme.portNumber) }

/-- Whether an address of a scheme of its own is well formed. -/
def checkForeign : List Char → Except AddressFault Unit
  | '/' :: '/' :: cs => do
    let (a, _) ← splitAuthority false cs
    if a.host.isEmpty then
      if a.portNumber.isSome || (a.userInfo.bind readUserInfo).isSome then .error .emptyHost
      else .ok ()
    else
      Host.checkForeign a.host
      let _ ← readPortNumber ((a.portNumber.getD []).takeWhile (· != '\\'))
  | _ => .ok ()

/-- A letter and a colon or a bar, where a host would stand. -/
def isDrive : List Char → Bool
  | [c, d] => isLetter c && (d == ':' || d == '|')
  | _ => false

/-- Whether the address of a file is well formed. -/
def checkFile : List Char → Except AddressFault Unit
  | a :: b :: cs =>
    if isSlash a && isSlash b then
      let host := cs.takeWhile fun c => !endsAuthority true c
      if host.isEmpty || isDrive host then .ok () else (Host.read host).map fun _ => ()
    else .ok ()
  | _ => .ok ()

def read (text : String) : Except AddressFault Reading :=
  let cs := (trimWhere (fun c => c.toNat ≤ 32) text.toList).filter fun c => !isStray c
  match splitScheme? cs with
  | none => .error .noScheme
  | some (scheme, rest) =>
    match String.ofList scheme with
    | "http" => (readWeb .http rest).map .web
    | "https" => (readWeb .https rest).map .web
    | "ws" | "wss" | "ftp" => (readWeb .http rest).map fun _ => .elsewhere
    | "file" => (checkFile rest).map fun _ => .elsewhere
    | _ => (checkForeign rest).map fun _ => .elsewhere

end WorkloadLogin.Http.Url
