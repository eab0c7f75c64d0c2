import WorkloadLogin.X509.Field

/-! # Extensions of certificates -/
namespace WorkloadLogin.X509

structure Extension where
  oid : Bytes
  value : Bytes
  deriving DecidableEq, Repr

namespace Extension

def basicConstraints : Bytes := [0x55, 0x1d, 0x13]

def subjectAltName : Bytes := [0x55, 0x1d, 0x11]

/-- What follows an optional truth value. -/
def skipCritical (bs : Bytes) : Bytes :=
  match element (fun e => e.tag.number == Der.boolTag && e.contents.length == 1) bs with
  | some (_, rest) => rest
  | none => bs

def read : Read Extension := fun bs => do
  let (e, rest) ← sequence bs
  let (type, c) ← X509.oid e.contents
  let (value, _) ← plain Der.octetStringTag (skipCritical c)
  return (⟨type, value.contents⟩, rest)

/-- Everything that is left must be extensions in a sequence behind tag 3. -/
def readAll (bs : Bytes) : Option (List Extension) :=
  if bs.isEmpty then some []
  else do
    let (tag, _, body) ← Der.readHeader bs
    if tag.number ≠ 3 then none
    let (e, rest) ← sequence body
    let (extensions, unread) := many read e.contents.length e.contents
    if unread.isEmpty ∧ rest.isEmpty then some extensions else none

end Extension

end WorkloadLogin.X509
