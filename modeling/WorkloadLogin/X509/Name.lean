import WorkloadLogin.X509.Field

/-! # Distinguished names

A name ends at the first part that does not read; what stands after that is not a part of it. -/
namespace WorkloadLogin.X509

structure Attribute where
  oid : Bytes
  tag : Der.Tag
  value : Bytes
  deriving DecidableEq, Repr

/-- Attributes of four string types are text when their octets are UTF-8. -/
def Attribute.text? (a : Attribute) : Option String :=
  if [Der.numericTag, Der.printableTag, Der.utf8Tag, Der.ia5Tag].contains a.tag.number then
    Bytes.toText? a.value
  else none

/-- A distinguished name: its attributes in order, and the octets they were read from. -/
structure Name where
  attributes : List Attribute
  encoded : Bytes
  deriving DecidableEq, Repr

namespace Name

def readAttribute : Read Attribute := fun bs => do
  let (e, rest) ← sequence bs
  let (type, c) ← oid e.contents
  let (value, _) ← Der.read c
  return (⟨type, value.tag, value.contents⟩, rest)

/-- The attributes of one set, which has at least one. -/
def readSet : Read (List Attribute) := fun bs => do
  let (e, rest) ← numbered Der.setTag bs
  match many readAttribute e.contents.length e.contents with
  | ([], _) => none
  | (as, _) => some (as, rest)

def read : Read Name := fun bs => do
  let (e, rest) ← sequence bs
  let (sets, unread) := many readSet e.contents.length e.contents
  let encoded := e.header ++ e.contents.take (e.contents.length - unread.length)
  return (⟨sets.flatten, encoded⟩, rest)

def commonName : Bytes := [0x55, 0x04, 0x03]

def organizationalUnit : Bytes := [0x55, 0x04, 0x0b]

def attributesOf (n : Name) (oid : Bytes) : List Attribute :=
  n.attributes.filter fun a => a.oid == oid

end Name

end WorkloadLogin.X509
