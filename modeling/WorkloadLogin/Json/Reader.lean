import WorkloadLogin.Json
import WorkloadLogin.Text.Hexadecimal

/-! # Reading JSON

The reader takes one value with blanks around it. A string holds no control character; an escape
for half a surrogate pair makes the string `unpaired`, which no decoder takes for a text, and in the
name of a member it makes the object `illNamed`, which no decoder takes for a record. Where a value
is passed over, both may stand. -/
namespace WorkloadLogin.Json
open Text

def isSpace (c : Char) : Bool := c == ' ' || c == '\t' || c == '\n' || c == '\r'

def hexUnit? (a b c d : Char) : Option Nat := do
  let a ← hexValue? a
  let b ← hexValue? b
  let c ← hexValue? c
  let d ← hexValue? d
  return ((a * 16 + b) * 16 + c) * 16 + d

def isHighUnit (n : Nat) : Bool := 0xD800 ≤ n && n < 0xDC00

def isLowUnit (n : Nat) : Bool := 0xDC00 ≤ n && n < 0xE000

def shortEscape? : Char → Option Char
  | '"' => some '"'
  | '\\' => some '\\'
  | '/' => some '/'
  | 'b' => some '\x08'
  | 'f' => some '\x0c'
  | 'n' => some '\n'
  | 'r' => some '\r'
  | 't' => some '\t'
  | _ => none

/-- What was read of a string: its characters so far, latest first, and whether all were text. -/
structure Letters where
  reversed : List Char := []
  paired : Bool := true

namespace Letters
def push (l : Letters) (c : Char) : Letters := { l with reversed := c :: l.reversed }

def spelling (l : Letters) : String := String.ofList l.reversed.reverse
end Letters

/-- The rest of a string after its opening mark. -/
def readLetters (acc : Letters) : List Char → Option (Letters × List Char)
  | '"' :: cs => some (acc, cs)
  | '\\' :: 'u' :: a :: b :: c :: d :: '\\' :: 'u' :: e :: f :: g :: h :: cs =>
    match hexUnit? a b c d, hexUnit? e f g h with
    | some n, some m =>
      if isHighUnit n && isLowUnit m then
        readLetters (acc.push (Char.ofNat (0x10000 + (n - 0xD800) * 0x400 + (m - 0xDC00)))) cs
      else if isHighUnit n || isLowUnit n then
        readLetters { acc with paired := false } ('\\' :: 'u' :: e :: f :: g :: h :: cs)
      else
        readLetters (acc.push (Char.ofNat n)) ('\\' :: 'u' :: e :: f :: g :: h :: cs)
    | _, _ => none
  | '\\' :: 'u' :: a :: b :: c :: d :: cs =>
    match hexUnit? a b c d with
    | some n =>
      if isHighUnit n || isLowUnit n then readLetters { acc with paired := false } cs
      else readLetters (acc.push (Char.ofNat n)) cs
    | none => none
  | '\\' :: c :: cs =>
    match shortEscape? c with
    | some e => readLetters (acc.push e) cs
    | none => none
  | c :: cs => if c.toNat < 32 then none else readLetters (acc.push c) cs
  | [] => none

def ofLetters (l : Letters) : Json :=
  if l.paired then string l.spelling else unpaired l.spelling

/-- The object of the members that were read, latest first. -/
def ofMembers (reversed : List (Letters × Json)) : Json :=
  let members := reversed.reverse.map fun (l, v) => (l.spelling, v)
  if reversed.all fun (l, _) => l.paired then object members else illNamed members

/-- A numeral at the head of a text: its value and what follows it. -/
def readNumber (cs : List Char) : Option (Json × List Char) :=
  let negative := cs.head? == some '-'
  let body := if negative then cs.drop 1 else cs
  let whole := body.takeWhile isDigit
  let rest := body.dropWhile isDigit
  if whole.isEmpty || (whole.length > 1 && whole.head? == some '0') then none
  else
    let fraction : Option (List Char × List Char) :=
      match rest with
      | '.' :: r =>
        let ds := r.takeWhile isDigit
        if ds.isEmpty then none else some ('.' :: ds, r.dropWhile isDigit)
      | r => some ([], r)
    fraction.bind fun (point, rest) =>
      let exponent : Option (List Char × List Char) :=
        match rest with
        | [] => some ([], [])
        | e :: r =>
          if e == 'e' || e == 'E' then
            let (sign, r) := match r with
              | '+' :: r => (['+'], r)
              | '-' :: r => (['-'], r)
              | r => ([], r)
            let ds := r.takeWhile isDigit
            if ds.isEmpty then none else some (e :: sign ++ ds, r.dropWhile isDigit)
          else some ([], e :: r)
      exponent.map fun (power, rest) =>
        if point.isEmpty && power.isEmpty && !(negative && foldDigits whole == 0) then
          (integer (if negative then -(foldDigits whole : Int) else foldDigits whole), rest)
        else
          (decimal (String.ofList ((if negative then ['-'] else []) ++ whole ++ point ++ power)),
            rest)

def skipSpace (cs : List Char) : List Char := cs.dropWhile isSpace

mutual
/-- The value at the head of a text, with at most `depth` steps into nested values. -/
def readValue : Nat → List Char → Option (Json × List Char)
  | 0, _ => none
  | depth + 1, cs =>
    match skipSpace cs with
    | 'n' :: 'u' :: 'l' :: 'l' :: cs => some (null, cs)
    | 't' :: 'r' :: 'u' :: 'e' :: cs => some (bool true, cs)
    | 'f' :: 'a' :: 'l' :: 's' :: 'e' :: cs => some (bool false, cs)
    | '"' :: cs => (readLetters {} cs).map fun (l, cs) => (ofLetters l, cs)
    | '[' :: cs =>
      match skipSpace cs with
      | ']' :: cs => some (array [], cs)
      | cs => readItems depth [] cs
    | '\x7b' :: cs =>
      match skipSpace cs with
      | '\x7d' :: cs => some (object [], cs)
      | cs => readMembers depth [] cs
    | cs => readNumber cs

def readItems : Nat → List Json → List Char → Option (Json × List Char)
  | 0, _, _ => none
  | depth + 1, acc, cs =>
    match readValue depth cs with
    | none => none
    | some (v, cs) =>
      match skipSpace cs with
      | ',' :: cs => readItems depth (v :: acc) cs
      | ']' :: cs => some (array (v :: acc).reverse, cs)
      | _ => none

def readMembers : Nat → List (Letters × Json) → List Char → Option (Json × List Char)
  | 0, _, _ => none
  | depth + 1, acc, cs =>
    match skipSpace cs with
    | '"' :: cs =>
      match readLetters {} cs with
      | none => none
      | some (name, cs) =>
        match skipSpace cs with
        | ':' :: cs =>
          match readValue depth cs with
          | none => none
          | some (v, cs) =>
            match skipSpace cs with
            | ',' :: cs => readMembers depth ((name, v) :: acc) cs
            | '\x7d' :: cs => some (ofMembers ((name, v) :: acc), cs)
            | _ => none
        | _ => none
    | _ => none
end

/-- The value written by a text, members in the order of the text. -/
def read? (text : String) : Option Json :=
  let cs := text.toList
  match readValue (2 * cs.length + 2) cs with
  | some (v, rest) => if (skipSpace rest).isEmpty then some v else none
  | none => none

end WorkloadLogin.Json
