import WorkloadLogin.Address.Reader
import WorkloadLogin.Http.DomainName
import WorkloadLogin.Http.Percent

/-! # Hosts

The host of an address is an IPv6 address in brackets, an IPv4 address, or a name. A name whose
last label is a number must be an IPv4 address; its one to four numbers are decimal, octal or
hexadecimal, and the last one fills the octets that the others leave. -/
namespace WorkloadLogin.Http
open Text

inductive Host where
  | name (ascii : String)
  | v4 (bits : Ipv4)
  | v6 (bits : Ipv6)
  deriving DecidableEq, Repr

/-- Why a text has no reading as an address of the web. -/
inductive AddressFault where
  | noScheme
  | emptyHost
  | domainName
  | domainCharacter
  | ipv4
  | ipv6
  | portNumber
  deriving DecidableEq, Repr

def AddressFault.message : AddressFault → String
  | noScheme => "relative URL without a base"
  | emptyHost => "empty host"
  | domainName => "invalid international domain name"
  | domainCharacter => "invalid domain character"
  | ipv4 => "invalid IPv4 address"
  | ipv6 => "invalid IPv6 address"
  | portNumber => "invalid port number"

namespace Host

/-- An IPv6 address without octets: the first longest run of zero groups is left out. -/
def renderV6 (a : Ipv6) : List Char :=
  let (start, length) := Ipv6.longestZeros 0 a.groups
  if length ≥ 2 then
    Ipv6.renderGroups (a.groups.take start) ++ [':', ':'] ++
      Ipv6.renderGroups (a.groups.drop (start + length))
  else Ipv6.renderGroups a.groups

def render : Host → String
  | name s => s
  | v4 a => String.ofList a.render
  | v6 a => "[" ++ String.ofList (renderV6 a) ++ "]"

/-! ## Numbers of an IPv4 address -/

/-- The value of a numeral in base eight, ten or sixteen; nothing is left of a bare mark. -/
def readNumber? (cs : List Char) : Option Nat :=
  let inBase (base : Nat) (ds : List Char) : Option Nat :=
    if ds.all fun c => (hexValue? c).any (· < base) then
      some (ds.foldl (fun n c => n * base + (hexValue? c).getD 0) 0)
    else none
  match cs with
  | [] => none
  | '0' :: 'x' :: ds | '0' :: 'X' :: ds => inBase 16 ds
  | '0' :: d :: ds => inBase 8 (d :: ds)
  | ds => inBase 10 ds

/-- The labels of a name; the empty one behind a final dot does not count. -/
def labels (name : List Char) : List (List Char) :=
  let ls := name.splitOn '.'
  if ls.length > 1 && ls.getLast? == some [] then ls.dropLast else ls

def endsInNumber (name : List Char) : Bool :=
  (labels name).getLast?.any fun l => (!l.isEmpty && l.all isDigit) || (readNumber? l).isSome

def readV4? (name : List Char) : Option Ipv4 := do
  let ls := labels name
  if ls.length > 4 then none
  let numbers ← ls.mapM readNumber?
  let last ← numbers.getLast?
  let front := numbers.dropLast
  if front.any (· > 255) || last ≥ 1 <<< (8 * (4 - front.length)) then none
  let high := front.foldl (fun n b => n * 256 + b) 0
  return BitVec.ofNat 32 (high <<< (8 * (4 - front.length)) + last)

/-- A text between brackets. -/
def readBracketed (cs : List Char) : Except AddressFault Host :=
  let inner := cs.drop 1
  match inner.getLast?, Ip.readV6 .plain inner.dropLast with
  | some ']', some (a, []) => .ok (v6 a)
  | _, _ => .error .ipv6

/-- The host that a text names to everyone. -/
def read (cs : List Char) : Except AddressFault Host :=
  if cs.isEmpty then .error .emptyHost
  else if cs.head? = some '[' then readBracketed cs
  else
    match (Bytes.toText? (Percent.decode (Bytes.utf8 cs))).bind fun s =>
        DomainName.toAscii? s.toList with
    | none => .error .domainName
    | some ascii =>
      if ascii.isEmpty then .error .emptyHost
      else if endsInNumber ascii then
        match readV4? ascii with
        | some a => .ok (v4 a)
        | none => .error .ipv4
      else .ok (name (String.ofList ascii))

/-- Whether a host that only its own scheme understands is well formed. -/
def checkForeign (cs : List Char) : Except AddressFault Unit :=
  if cs.head? = some '[' then (readBracketed cs).map fun _ => ()
  else if cs.any fun c => "\x00\t\n\r #/:<>?@[\\]^|".toList.contains c then .error .domainCharacter
  else .ok ()

/-- Whether the host can stand in a request: four marks that names may hold have no place there. -/
def canBeSent : Host → Bool
  | name s => !s.toList.any fun c => ['"', '\x60', '\x7b', '\x7d'].contains c
  | _ => true

end Host
end WorkloadLogin.Http
