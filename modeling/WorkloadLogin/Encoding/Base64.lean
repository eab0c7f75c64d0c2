import WorkloadLogin.Encoding.Bytes
import WorkloadLogin.Text.Decimal

/-! # Base64

Both alphabets are padded and canonical: a text is taken only if it is the encoding of its octets.
An error names the first place, in octets of the text, at which that fails. -/
namespace WorkloadLogin.Base64
open Text

inductive Alphabet where
  | standard
  /-- The last two symbols are `-` and `_`. -/
  | urlSafe
  deriving DecidableEq, Repr

namespace Alphabet

def last : Alphabet → Char × Char
  | standard => ('+', '/')
  | urlSafe => ('-', '_')

/-- The symbol for six bits. -/
def symbol (a : Alphabet) (n : Nat) : Char :=
  if n < 26 then Char.ofNat (n + 'A'.toNat)
  else if n < 52 then Char.ofNat (n - 26 + 'a'.toNat)
  else if n < 62 then Char.ofNat (n - 52 + '0'.toNat)
  else if n = 62 then a.last.1
  else a.last.2

def value? (a : Alphabet) (b : UInt8) : Option Nat :=
  let n := b.toNat
  if 'A'.toNat ≤ n ∧ n ≤ 'Z'.toNat then some (n - 'A'.toNat)
  else if 'a'.toNat ≤ n ∧ n ≤ 'z'.toNat then some (n - 'a'.toNat + 26)
  else if '0'.toNat ≤ n ∧ n ≤ '9'.toNat then some (n - '0'.toNat + 52)
  else if n = a.last.1.toNat then some 62
  else if n = a.last.2.toNat then some 63
  else none

end Alphabet

inductive Error where
  | symbol (octet : UInt8) (offset : Nat)
  | length (n : Nat)
  /-- The bits that the text has too many are not zero. -/
  | lastSymbol (octet : UInt8) (offset : Nat)
  | padding
  deriving DecidableEq, Repr

def Error.message : Error → String
  | .symbol b i => "Invalid symbol " ++ decimal b.toNat ++ ", offset " ++ decimal i ++ "."
  | .length n => "Invalid input length: " ++ decimal n
  | .lastSymbol b i => "Invalid last symbol " ++ decimal b.toNat ++ ", offset " ++ decimal i ++ "."
  | .padding => "Invalid padding"

def pad : UInt8 := 61

/-- Four symbols for three octets, the last ones padded. -/
def encode (a : Alphabet) : Bytes → List Char
  | [] => []
  | [x] =>
    [a.symbol (x.toNat / 4), a.symbol (x.toNat % 4 * 16), '=', '=']
  | [x, y] =>
    [a.symbol (x.toNat / 4), a.symbol (x.toNat % 4 * 16 + y.toNat / 16),
      a.symbol (y.toNat % 16 * 4), '=']
  | x :: y :: z :: rest =>
    a.symbol (x.toNat / 4) :: a.symbol (x.toNat % 4 * 16 + y.toNat / 16) ::
      a.symbol (y.toNat % 16 * 4 + z.toNat / 64) :: a.symbol (z.toNat % 64) :: encode a rest

/-- The six-bit values of octets that must all be symbols, counted from `offset`. -/
def values (a : Alphabet) (offset : Nat) : Bytes → Except Error (List Nat)
  | [] => .ok []
  | b :: bs =>
    match a.value? b with
    | none => .error (.symbol b offset)
    | some v => (values a (offset + 1) bs).map (v :: ·)

/-- The octets of whole groups of four values. -/
def joinQuads : List Nat → Bytes
  | p :: q :: r :: s :: rest =>
    UInt8.ofNat (p * 4 + q / 16) :: UInt8.ofNat (q % 16 * 16 + r / 4) ::
      UInt8.ofNat (r % 4 * 64 + s) :: joinQuads rest
  | _ => []

/-- What was read of the last group: its symbols and values, and where its padding began. -/
structure Tail where
  symbols : Bytes := []
  values : List Nat := []
  pads : Nat := 0
  firstPad : Nat := 0

/-- Reads the last group, whose first octet is at `start`, from its octet number `index` on. -/
def readTail (a : Alphabet) (start : Nat) : Nat → Tail → Bytes → Except Error Tail
  | _, t, [] => .ok t
  | index, t, b :: bs =>
    if b = pad then
      if index < 2 then .error (.symbol b (start + index))
      else
        readTail a start (index + 1)
          { t with pads := t.pads + 1, firstPad := if t.pads = 0 then index else t.firstPad } bs
    else if t.pads > 0 then .error (.symbol pad (start + t.firstPad))
    else
      match a.value? b with
      | none => .error (.symbol b (start + index))
      | some v =>
        readTail a start (index + 1)
          { t with symbols := t.symbols ++ [b], values := t.values ++ [v] } bs

/-- The octets of a last group that is padded to four. -/
def closeTail (start : Nat) (t : Tail) : Except Error Bytes :=
  if t.values.length < 2 then .error (.length (start + t.values.length))
  else if (t.pads + t.values.length) % 4 ≠ 0 then .error .padding
  else
    let spare := match t.values with
      | [_, q] => q % 16
      | [_, _, r] => r % 4
      | _ => 0
    if spare ≠ 0 then
      .error (.lastSymbol (t.symbols.getLast?.getD pad) (start + t.values.length - 1))
    else
      .ok ((joinQuads (t.values ++ List.replicate t.pads 0)).take (3 - t.pads))

/-- Where the last group starts: it may be padded, so it is never empty unless the text is. -/
def tailStart (n : Nat) : Nat := if n % 4 = 0 then n - 4 else n - n % 4

def decode (a : Alphabet) (bs : Bytes) : Except Error Bytes :=
  let n := bs.length
  let stray : Option UInt8 :=
    if n % 4 = 1 then bs.getLast?.filter fun b => b ≠ pad && (a.value? b).isNone else none
  match stray with
  | some b => .error (.symbol b (n - 1))
  | none =>
    if bs.isEmpty then .ok []
    else
      let start := tailStart n
      match values a 0 (bs.take start) with
      | .error e => .error e
      | .ok front =>
        match readTail a start 0 {} (bs.drop start) with
        | .error e => .error e
        | .ok t => (closeTail start t).map (joinQuads front ++ ·)

/-- The octets of a text that may lack its padding and have any bits too many, but has no padding
before its last group. -/
def decodeLoose (a : Alphabet) (bs : Bytes) : Option Bytes := do
  let start := if bs.isEmpty then 0 else tailStart bs.length
  let front ← (values a 0 (bs.take start)).toOption
  let tail ← (readTail a start 0 {} (bs.drop start)).toOption
  let spare := 4 - tail.values.length
  if tail.values.length = 1 ∨ (tail.pads ≠ 0 ∧ tail.pads ≠ spare) then none
  else
    return joinQuads front ++
      (joinQuads (tail.values ++ List.replicate spare 0)).take (3 - spare)

end WorkloadLogin.Base64
