import WorkloadLogin.Encoding.Der

/-! # Fields of certificates

Readers of the parts that certificates are made of. An element is known by the number of its tag,
whatever the family of the tag, except where a field has a number of its own. -/
namespace WorkloadLogin.X509

/-- A reader of the head of a string of octets. -/
abbrev Read (α : Type) := Bytes → Option (α × Bytes)

def element (p : Der.Element → Bool) : Read Der.Element := fun bs => do
  let (e, rest) ← Der.read bs
  if p e then some (e, rest) else none

/-- An element of that number, whatever the family of its tag. -/
def numbered (number : Nat) : Read Der.Element := element fun e => e.tag.number == number

/-- An element of that number that is not made up of others. -/
def plain (number : Nat) : Read Der.Element :=
  element fun e => e.tag.number == number && !e.tag.constructed

def sequence : Read Der.Element := numbered Der.sequenceTag

/-- An object identifier, which its place alone makes one. -/
def oid : Read Bytes := fun bs =>
  (element (fun e => !e.tag.constructed) bs).map fun (e, rest) => (e.contents, rest)

/-- A natural number of 32 bits, in the fewest octets. -/
def natural : Read Nat := fun bs => do
  let (e, rest) ← plain Der.integerTag bs
  match e.contents with
  | [] => none
  | [b] => if b < 128 then some (b.toNat, rest) else none
  | b :: b' :: _ =>
    let n := Bytes.toNat e.contents
    if b ≥ 128 ∨ (b = 0 ∧ b' < 128) ∨ n ≥ UInt32.size then none else some (n, rest)

/-- A field that is left out unless an element of that number follows, which then must hold it. -/
def optional {α : Type} (number : Nat) (inner : Read α) : Read (Option α) := fun bs =>
  if bs.isEmpty then some (none, bs)
  else do
    let (e, rest) ← Der.read bs
    if e.tag.number ≠ number then return (none, bs)
    if e.tag.family ≠ 2 then none
    let (a, _) ← inner e.contents
    return (some a, rest)

/-- The elements that `one` reads in a row from the head, at most `most` of them, and the rest. -/
def many {α : Type} (one : Read α) : (most : Nat) → Bytes → List α × Bytes
  | 0, bs => ([], bs)
  | most + 1, bs =>
    match one bs with
    | some (a, rest) =>
      let (as, rest) := many one most rest
      (a :: as, rest)
    | none => ([], bs)

/-- The octets of bits behind the number of spare ones at their end, which are zero. -/
def octetsOfBits? : Bytes → Option Bytes
  | [] => none
  | spare :: bits =>
    match bits.getLast? with
    | none => if spare = 0 then some [] else none
    | some b => if spare.toNat > 8 ∨ b.toNat % (1 <<< spare.toNat) ≠ 0 then none else some bits

def bitString : Read Bytes := fun bs => do
  let (e, rest) ← plain Der.bitStringTag bs
  let bits ← octetsOfBits? e.contents
  return (bits, rest)

end WorkloadLogin.X509
