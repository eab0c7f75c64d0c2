/-! # Punycode

A label with characters beyond ASCII is written in ASCII: first its ASCII characters, then for
every other one, ascending by number, how far the pair of number and place is from the last one
inserted. -/
namespace WorkloadLogin.Http.DomainName

/-- The symbol for a digit in base 36. -/
def symbol (d : Nat) : Char := if d < 26 then Char.ofNat (97 + d) else Char.ofNat (22 + d)

def symbolValue? (c : Char) : Option Nat :=
  if 'a' ≤ c ∧ c ≤ 'z' then some (c.toNat - 97)
  else if '0' ≤ c ∧ c ≤ '9' then some (c.toNat - 22)
  else none

/-- The least digit value at place `k` that does not go on. -/
def threshold (bias k : Nat) : Nat := min 26 (max 1 (k - bias))

def settle (k : Nat) : Nat → Nat → Nat
  | 0, delta => k + 36 * delta / (delta + 38)
  | most + 1, delta =>
    if delta > 455 then settle (k + 36) most (delta / 35) else k + 36 * delta / (delta + 38)

/-- The bias for the next distance, from the last one and the number of characters there are. -/
def adapt (delta characters : Nat) (first : Bool) : Nat :=
  let delta := if first then delta / 700 else delta / 2
  settle 0 delta (delta + delta / characters)

/-- A distance in digits whose base varies from place to place. -/
def writeDistance (bias : Nat) : (most k q : Nat) → List Char
  | 0, _, _ => []
  | most + 1, k, q =>
    let t := threshold bias k
    if q < t then [symbol q]
    else symbol (t + (q - t) % (36 - t)) :: writeDistance bias most (k + 36) ((q - t) / (36 - t))

structure Progress where
  reversed : List Char
  delta : Nat := 0
  bias : Nat := 72
  /-- Characters inserted so far. -/
  count : Nat

/-- Passes over one character of a label when those of number `n` are inserted. -/
def passOver (plain n : Nat) (p : Progress) (c : Char) : Progress :=
  if c.toNat < n then { p with delta := p.delta + 1 }
  else if c.toNat = n then
    { reversed := (writeDistance p.bias (p.delta + 1) 36 p.delta).reverse ++ p.reversed
      delta := 0
      bias := adapt p.delta (p.count + 1) (p.count == plain)
      count := p.count + 1 }
  else p

/-- Inserts the characters of the given numbers, of which the last was below `n`. -/
def insertNumbers (label : List Char) (plain : Nat) : (n : Nat) → List Nat → Progress → Progress
  | _, [], p => p
  | n, m :: ms, p =>
    let p := { p with delta := p.delta + (m - n) * (p.count + 1) }
    let p := label.foldl (passOver plain m) p
    insertNumbers label plain (m + 1) ms { p with delta := p.delta + 1 }

def isAscii (c : Char) : Bool := c.toNat < 128

def punycode (label : List Char) : List Char :=
  let plain := label.filter isAscii
  let numbers := ((label.filter fun c => !isAscii c).map Char.toNat).mergeSort.eraseDups
  let start := if plain.isEmpty then [] else plain ++ ['-']
  let p := insertNumbers label plain.length 128 numbers
    { reversed := start.reverse, count := plain.length }
  p.reversed.reverse

/-- The distance written at the head of a text, and what follows it. -/
def readDistance (bias : Nat) : (k weight sum : Nat) → List Char → Option (Nat × List Char)
  | _, _, _, [] => none
  | k, weight, sum, c :: cs =>
    match symbolValue? c with
    | none => none
    | some d =>
      let t := threshold bias k
      if d < t then some (sum + d * weight, cs)
      else readDistance bias (k + 36) (weight * (36 - t)) (sum + d * weight) cs

/-- The label with the characters put in whose distances a text holds, at most `most` of them.
The last one was put in before `place` and had the given number. -/
def readInserted : (most place number bias : Nat) → List Char → List Char → Option (List Char)
  | _, _, _, _, label, [] => some label
  | 0, _, _, _, _, _ => none
  | most + 1, place, number, bias, label, cs =>
    match readDistance bias 36 1 0 cs with
    | none => none
    | some (distance, cs) =>
      let places := label.length + 1
      let number := number + (place + distance) / places
      let here := (place + distance) % places
      if number.isValidChar then
        readInserted most (here + 1) number (adapt distance places (place == 0))
          (label.take here ++ Char.ofNat number :: label.drop here) cs
      else none

/-- The label that a text is the Punycode of. -/
def readPunycode? (text : List Char) : Option (List Char) :=
  let back := text.reverse
  let plain := ((back.dropWhile (· != '-')).drop 1).reverse
  readInserted text.length 0 128 72 plain (back.takeWhile (· != '-')).reverse

end WorkloadLogin.Http.DomainName
