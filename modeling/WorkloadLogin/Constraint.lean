import WorkloadLogin.Address.Network
import WorkloadLogin.Text.Blank

/-! # Constraints on callers

A list of bound names or networks constrains nothing while it is empty. A remote address is what
stands before the first solidus of its text, without the blanks around it. -/
namespace WorkloadLogin.Constraint
open Text

/-- Exact membership, or no constraint at all. -/
def meets (value : String) (bound : List String) : Bool := bound.isEmpty || bound.contains value

def remoteIp? (remote : String) : Option Ip :=
  Ip.parse? (trimBlank (remote.toList.takeWhile (· != '/')))

/-- Whether the remote address is the one a certificate names. -/
def matchesIp (remote certificateIp : String) : Bool :=
  match remoteIp? remote, Ip.parse? (trimBlank certificateIp.toList) with
  | some a, some b => a.canonical == b.canonical
  | _, _ => false

def withinAny (remote : String) (networks : List Network) : Bool :=
  networks.isEmpty ||
    match remoteIp? remote with
    | some a => networks.any fun net => net.contains a.canonical
    | none => false

end WorkloadLogin.Constraint
