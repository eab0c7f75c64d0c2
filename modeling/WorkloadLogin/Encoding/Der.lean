import WorkloadLogin.Encoding.Bytes

/-! # Tagged elements

An element is a tag, a length and contents. Certificates are read with lengths of any definite
form, and the length of a serial number may be left open; keys and signature values must have the
shortest form, which `readExact` asks for. -/
namespace WorkloadLogin.Der

structure Tag where
  /-- 0 universal, 1 application, 2 context-specific, 3 private. -/
  family : Nat
  constructed : Bool
  number : Nat
  deriving DecidableEq, Repr

structure Element where
  tag : Tag
  contents : Bytes
  /-- Octets of tag and length. -/
  header : Bytes
  deriving DecidableEq, Repr

/-- Tag numbers of the universal family. -/
def boolTag : Nat := 1
def integerTag : Nat := 2
def bitStringTag : Nat := 3
def octetStringTag : Nat := 4
def nullTag : Nat := 5
def oidTag : Nat := 6
def enumeratedTag : Nat := 10
def utf8Tag : Nat := 12
def sequenceTag : Nat := 16
def setTag : Nat := 17
def numericTag : Nat := 18
def printableTag : Nat := 19
def ia5Tag : Nat := 22
def utcTimeTag : Nat := 23
def generalizedTimeTag : Nat := 24

/-- The later octets of a long tag number, at most `most` of them; the number has 32 bits. -/
def readTagNumber : (most : Nat) → Nat → Bytes → Option (Nat × Bytes)
  | 0, _, _ => none
  | _ + 1, _, [] => none
  | most + 1, n, b :: bs =>
    let n := (n * 128 + b.toNat % 128) % UInt32.size
    if b < 128 then some (n, bs) else readTagNumber most n bs

def readTag : Bytes → Option (Tag × Bytes)
  | [] => none
  | b :: bs =>
    let family := b.toNat / 64
    let constructed := b.toNat / 32 % 2 == 1
    if b.toNat % 32 = 31 then
      (readTagNumber 5 0 bs).map fun (n, bs) => (⟨family, constructed, n⟩, bs)
    else some (⟨family, constructed, b.toNat % 32⟩, bs)

/-- A definite length. -/
def readLength : Bytes → Option (Nat × Bytes)
  | [] => none
  | b :: bs =>
    let k := b.toNat % 128
    if b < 128 then some (b.toNat, bs)
    else if k = 0 ∨ k = 127 ∨ bs.length < k then none
    else
      let n := Bytes.toNat (bs.take k)
      if n < UInt64.size then some (n, bs.drop k) else none

/-- Tag, length and what follows them. -/
def readHeader (bs : Bytes) : Option (Tag × Nat × Bytes) := do
  let (tag, afterTag) ← readTag bs
  let (n, rest) ← readLength afterTag
  return (tag, n, rest)

/-- The element at the head of a string of octets. -/
def read (bs : Bytes) : Option (Element × Bytes) := do
  let (tag, n, rest) ← readHeader bs
  if rest.length < n then none
  else some (⟨tag, rest.take n, bs.take (bs.length - rest.length)⟩, rest.drop n)

/-- A header whose length may be left open. -/
def readOpenHeader (bs : Bytes) : Option (Tag × Option Nat × Bytes) := do
  let (tag, afterTag) ← readTag bs
  match afterTag with
  | 128 :: rest => return (tag, none, rest)
  | _ => (readLength afterTag).map fun (n, rest) => (tag, some n, rest)

/-- What follows the empty element of number zero that ends an open length. The elements before
it may be open themselves, down to `depth` levels, and are `most` at most. -/
def skipToEnd (depth most : Nat) (bs : Bytes) : Option Bytes :=
  match depth, most with
  | depth + 1, most + 1 => do
    let (tag, length, body) ← readOpenHeader bs
    match length with
    | some n =>
      if n = 0 ∧ tag.number = 0 then some body
      else if body.length < n then none
      else skipToEnd (depth + 1) most (body.drop n)
    | none =>
      if tag.constructed then skipToEnd (depth + 1) most (← skipToEnd depth body.length body)
      else none
  | _, _ => none
termination_by (depth, most)

/-- What follows an element of that number, whose length may be open. -/
def skipOpen (number : Nat) (bs : Bytes) : Option Bytes := do
  let (tag, length, body) ← readOpenHeader bs
  if tag.number ≠ number then none
  match length with
  | some n => if body.length < n then none else some (body.drop n)
  | none => if tag.constructed then skipToEnd 49 body.length body else none

/-- The shortest header for a tag number below 31 and this length. -/
def exactHeader (tag : Tag) (n : Nat) : Bytes :=
  let first := UInt8.ofNat (tag.family * 64 + (if tag.constructed then 32 else 0) + tag.number)
  if n < 128 then [first, UInt8.ofNat n]
  else
    let k := n.log2 / 8 + 1
    first :: UInt8.ofNat (128 + k) :: Bytes.ofNat k n

/-- An element whose header is the shortest one. -/
def readExact (bs : Bytes) : Option (Element × Bytes) := do
  let (e, rest) ← read bs
  if e.tag.number < 31 ∧ e.header = exactHeader e.tag e.contents.length then some (e, rest)
  else none

namespace Element

def encoded (e : Element) : Bytes := e.header ++ e.contents

def isPlain (e : Element) (number : Nat) : Bool := e.tag == ⟨0, false, number⟩

def isNested (e : Element) (number : Nat) : Bool := e.tag == ⟨0, true, number⟩

end Element

/-- The contents of an exact primitive element of that number, and what follows it. -/
def readPlain (number : Nat) (bs : Bytes) : Option (Bytes × Bytes) := do
  let (e, rest) ← readExact bs
  if e.isPlain number then some (e.contents, rest) else none

/-- The contents of an exact sequence, and what follows it. -/
def readSequence (bs : Bytes) : Option (Bytes × Bytes) := do
  let (e, rest) ← readExact bs
  if e.isNested sequenceTag then some (e.contents, rest) else none

/-- An exact integer that is not negative, in the fewest octets. -/
def readNatural (bs : Bytes) : Option (Nat × Bytes) := do
  let (c, rest) ← readPlain integerTag bs
  match c with
  | [] => none
  | [b] => if b < 128 then some (b.toNat, rest) else none
  | b :: b' :: _ =>
    if b ≥ 128 ∨ (b = 0 ∧ b' < 128) then none else some (Bytes.toNat c, rest)

/-- Two naturals that make up a whole sequence. -/
def readNaturalPair (bs : Bytes) : Option (Nat × Nat) := do
  let (c, rest) ← readSequence bs
  let (x, c) ← readNatural c
  let (y, c) ← readNatural c
  if c.isEmpty ∧ rest.isEmpty then some (x, y) else none

end WorkloadLogin.Der
