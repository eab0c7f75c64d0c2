import WorkloadLogin.Address.Ip
import WorkloadLogin.X509.Name

/-! # Alternative names

Names of a subject besides its distinguished name. -/
namespace WorkloadLogin.X509

/-- The parts of alternative names that matter: an address or something else. -/
inductive AltName where
  | ip (octets : Bytes)
  | other
  deriving DecidableEq, Repr

namespace AltName

def read : Read AltName := fun bs => do
  let (e, rest) ← Der.read bs
  if e.tag.family ≠ 2 then none
  match e.tag.number with
  | 0 => (X509.oid e.contents).map fun _ => (.other, rest)
  | 1 | 2 | 6 => (Bytes.toText? e.contents).map fun _ => (.other, rest)
  | 3 | 5 | 8 => some (.other, rest)
  | 4 =>
    match Name.read e.contents with
    | some (_, []) => some (.other, rest)
    | _ => none
  | 7 => some (.ip e.contents, rest)
  | _ => none

def readAll (value : Bytes) : Option (List AltName) := do
  let (e, _) ← sequence value
  match many read e.contents.length e.contents with
  | (names, []) => some names
  | _ => none

/-- The addresses of four or sixteen octets among the alternative names. -/
def addresses (names : List AltName) : List Ip :=
  names.filterMap fun
    | .ip octets => Ip.ofBytes? octets
    | .other => none

end AltName

end WorkloadLogin.X509
