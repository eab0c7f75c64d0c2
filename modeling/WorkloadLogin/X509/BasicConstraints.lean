import WorkloadLogin.X509.Field

/-! # Basic constraints

The extension that marks a CA: a truth value that may be left out, and the length that a path of
certificates may have below this one. -/
namespace WorkloadLogin.X509.BasicConstraints

/-- The number of an element that has a universal meaning. -/
def universalNumber? (e : Der.Element) : Option Nat :=
  if e.tag.family = 0 ∨ e.tag.family = 3 then some e.tag.number else none

/-- The value of a truth element: any octet but zero is true. -/
def truth? (e : Der.Element) : Option Bool :=
  match e.contents with
  | [b] => if universalNumber? e = some Der.boolTag then some (b != 0) else none
  | _ => none

/-- The number that an element of one of three kinds stands for, if it is not negative. -/
def natural? (e : Der.Element) : Option Nat :=
  if e.tag.constructed then none
  else if universalNumber? e = some Der.integerTag then
    if e.contents.head?.any fun b => b ≥ 128 then none else some (Bytes.toNat e.contents)
  else if universalNumber? e = some Der.enumeratedTag then some (Bytes.toNat e.contents)
  else if universalNumber? e = some Der.bitStringTag then
    match e.contents with
    | [] => none
    | spare :: bits =>
      if spare.toNat > 7 ∨ (bits.isEmpty ∧ spare ≠ 0) then none
      else some (Bytes.toNat bits / (1 <<< spare.toNat))
  else none

/-- Whether an element is a number of 32 bits. -/
def isPathLength (e : Der.Element) : Bool := (natural? e).any fun n => n < UInt32.size

/-- Whether the value of the extension says that the certificate is a CA's. -/
def marksCa (value : Bytes) : Bool :=
  match sequence value with
  | none => false
  | some (e, _) =>
    e.tag.constructed &&
      match many Der.read e.contents.length e.contents with
      | ([b], []) => truth? b == some true
      | ([b, n], []) => truth? b == some true && isPathLength n
      | _ => false

end WorkloadLogin.X509.BasicConstraints
