import WorkloadLogin.Address.Ip
import WorkloadLogin.Json.Reader

/-! # Reading addresses

Plain addresses and the addresses of networks are read by one grammar whose two spellings differ:
whether an octet may start with a zero, and how few groups the gap of an IPv6 address stands for. -/
namespace WorkloadLogin
open Text

structure AddressSpelling where
  /-- An octet may have leading zeros. -/
  paddedOctets : Bool
  /-- The fewest groups that a gap stands for. -/
  shortestGap : Nat

def AddressSpelling.plain : AddressSpelling := ⟨false, 1⟩

def AddressSpelling.network : AddressSpelling := ⟨true, 0⟩

namespace Ip

/-- A numeral of one to `most` digits whose value is below `bound`. -/
def readNumeral (digit? : Char → Option Nat) (base most bound : Nat) (cs : List Char) :
    Option (List Char × Nat × List Char) :=
  let ds := cs.takeWhile fun c => (digit? c).isSome
  let n := ds.foldl (fun n c => base * n + (digit? c).getD 0) 0
  if ds.isEmpty || ds.length > most || n ≥ bound then none
  else some (ds, n, cs.dropWhile fun c => (digit? c).isSome)

def decimalDigit? (c : Char) : Option Nat := if isDigit c then some (digitValue c) else none

def readOctet (sp : AddressSpelling) (cs : List Char) : Option (Nat × List Char) :=
  match readNumeral decimalDigit? 10 3 256 cs with
  | some (ds, n, rest) =>
    if !sp.paddedOctets && ds.length > 1 && ds.head? == some '0' then none else some (n, rest)
  | none => none

def readGroup (cs : List Char) : Option (Nat × List Char) :=
  (readNumeral hexValue? 16 4 65536 cs).map Prod.snd

def readChar (c : Char) : List Char → Option (List Char)
  | d :: cs => if c = d then some cs else none
  | [] => none

def readV4 (sp : AddressSpelling) (cs : List Char) : Option (Ipv4 × List Char) := do
  let (a, cs) ← readOctet sp cs
  let (b, cs) ← readOctet sp (← readChar '.' cs)
  let (c, cs) ← readOctet sp (← readChar '.' cs)
  let (d, cs) ← readOctet sp (← readChar '.' cs)
  return (Ipv4.ofOctets a b c d, cs)

/-- Groups that were read in a row, and whether the last two were written as octets. -/
structure Groups where
  values : List Nat := []
  dotted : Bool := false

/-- At most `limit` groups parted by colons; the last two of them may be written as octets. -/
def readGroups (sp : AddressSpelling) (first : Bool) : Nat → List Char → Groups × List Char
  | 0, cs => ({}, cs)
  | limit + 1, cs =>
    let start := if first then some cs else readChar ':' cs
    match (if limit = 0 then none else start.bind (readV4 sp)) with
    | some (a, rest) => (⟨[a.toNat / 65536, a.toNat % 65536], true⟩, rest)
    | none =>
      match start.bind readGroup with
      | some (g, rest) =>
        let (more, rest) := readGroups sp false limit rest
        (⟨g :: more.values, more.dotted⟩, rest)
      | none => ({}, cs)

def readV6 (sp : AddressSpelling) (cs : List Char) : Option (Ipv6 × List Char) := do
  let (front, cs) := readGroups sp true 8 cs
  let held := front.values.length
  if held = 8 then return (Ipv6.ofGroups front.values, cs)
  if front.dotted then none
  let cs ← readChar ':' (← readChar ':' cs)
  let (back, cs) := readGroups sp true (8 - held - sp.shortestGap) cs
  let gap := List.replicate (8 - held - back.values.length) 0
  return (Ipv6.ofGroups (front.values ++ gap ++ back.values), cs)

/-- The address that a whole text writes. -/
def parse? (cs : List Char) : Option Ip :=
  match readV4 .plain cs with
  | some (a, rest) => if rest.isEmpty then some (v4 a) else none
  | none =>
    match readV6 .plain cs with
    | some (a, rest) => if rest.isEmpty then some (v6 a) else none
    | none => none

end Ip
end WorkloadLogin
