import WorkloadLogin.Text.Decimal

/-! # IP addresses

An address is its bits. Its text is four decimal octets, or eight hexadecimal groups of which the
first longest run of at least two zeros is left out; an address that wraps an IPv4 one is shown
with the octets of that one. -/
namespace WorkloadLogin

abbrev Ipv4 := BitVec 32

abbrev Ipv6 := BitVec 128

inductive Ip where
  | v4 (bits : Ipv4)
  | v6 (bits : Ipv6)
  deriving DecidableEq, Repr

namespace Ipv4
open Text

def ofOctets (a b c d : Nat) : Ipv4 := BitVec.ofNat 32 (((a * 256 + b) * 256 + c) * 256 + d)

def octet (a : Ipv4) (i : Nat) : Nat := (a.toNat >>> (8 * (3 - i))) % 256

def render (a : Ipv4) : List Char :=
  digits (a.octet 0) ++ '.' :: digits (a.octet 1) ++ '.' :: digits (a.octet 2) ++
    '.' :: digits (a.octet 3)

end Ipv4

namespace Ipv6

def ofGroups (gs : List Nat) : Ipv6 := BitVec.ofNat 128 (gs.foldl (fun n g => n * 65536 + g) 0)

def group (a : Ipv6) (i : Nat) : Nat := (a.toNat >>> (16 * (7 - i))) % 65536

def groups (a : Ipv6) : List Nat := (List.range 8).map a.group

/-- The IPv4 address that is wrapped behind ten zero octets and two full ones. -/
def mapped? (a : Ipv6) : Option Ipv4 :=
  if a.toNat / 0x100000000 = 0xFFFF then some (BitVec.ofNat 32 a.toNat) else none

def ofMapped (a : Ipv4) : Ipv6 := BitVec.ofNat 128 (0xFFFF * 0x100000000 + a.toNat)

/-- Length of the run of zeros at the head of a list. -/
def zerosAtHead (gs : List Nat) : Nat := (gs.takeWhile (· == 0)).length

/-- Start and length of the first longest run of zeros among the groups from `start` on. -/
def longestZeros (start : Nat) : List Nat → Nat × Nat
  | [] => (start, 0)
  | g :: gs =>
    let here := zerosAtHead (g :: gs)
    let later := longestZeros (start + 1) gs
    if later.2 > here then later else (start, here)

def renderGroups (gs : List Nat) : List Char :=
  List.intercalate [':'] (gs.map (Nat.toDigits 16))

def render (a : Ipv6) : List Char :=
  match a.mapped? with
  | some v4 => "::ffff:".toList ++ v4.render
  | none =>
    let (start, length) := longestZeros 0 a.groups
    if length ≥ 2 then
      renderGroups (a.groups.take start) ++ [':', ':'] ++
        renderGroups (a.groups.drop (start + length))
    else renderGroups a.groups

end Ipv6

namespace Ip

def render : Ip → String
  | v4 a => String.ofList a.render
  | v6 a => String.ofList a.render

/-- The address with a wrapped IPv4 address unwrapped. -/
def canonical : Ip → Ip
  | v4 a => v4 a
  | v6 a =>
    match a.mapped? with
    | some b => v4 b
    | none => v6 a

/-- The address of four or sixteen octets. -/
def ofBytes? (bs : List UInt8) : Option Ip :=
  let value := bs.foldl (fun n b => n * 256 + b.toNat) 0
  if bs.length = 4 then some (v4 (BitVec.ofNat 32 value))
  else if bs.length = 16 then some (v6 (BitVec.ofNat 128 value))
  else none

end Ip
end WorkloadLogin
