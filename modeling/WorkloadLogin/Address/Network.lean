import WorkloadLogin.Address.Reader

/-! # Networks

A network is an address with the number of leading bits that its members share with it. The
address is kept as written, host bits included. -/
namespace WorkloadLogin
open Text

inductive Network where
  | v4 (address : Ipv4) (length : Fin 33)
  | v6 (address : Ipv6) (length : Fin 129)
  deriving DecidableEq, Repr

namespace Network

def render : Network → String
  | v4 a n => String.ofList (a.render ++ '/' :: digits n.val)
  | v6 a n => String.ofList (a.render ++ '/' :: digits n.val)

/-- Membership of an address of the same family: the leading bits agree. -/
def contains : Network → Ip → Bool
  | v4 a n, .v4 b => a >>> (32 - n.val) == b >>> (32 - n.val)
  | v6 a n, .v6 b => a >>> (128 - n.val) == b >>> (128 - n.val)
  | _, _ => false

def readLength (bound most : Nat) (cs : List Char) : Option (Nat × List Char) := do
  (← Ip.readNumeral Ip.decimalDigit? 10 most bound (← Ip.readChar '/' cs)).2

def readV4 (cs : List Char) : Option (Network × List Char) := do
  let (a, cs) ← Ip.readV4 .network cs
  let (n, cs) ← readLength 33 2 cs
  return (v4 a (Fin.ofNat 33 n), cs)

def readV6 (cs : List Char) : Option (Network × List Char) := do
  let (a, cs) ← Ip.readV6 .network cs
  let (n, cs) ← readLength 129 3 cs
  return (v6 a (Fin.ofNat 129 n), cs)

/-- The network that a whole text writes. -/
def parse? (s : String) : Option Network :=
  match (readV4 s.toList).or (readV6 s.toList) with
  | some (net, rest) => if rest.isEmpty then some net else none
  | none => none

end Network
end WorkloadLogin
