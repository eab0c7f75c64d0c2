import WorkloadLogin.Json.Nested
import WorkloadLogin.Text.Blank
import WorkloadLogin.Text.Hexadecimal
import WorkloadLogin.Text.Numeral

/-! # Configuration from environment variables

A variable whose name starts with the common beginning, in any case, sets the value at the path
that the rest of its name spells: lower-cased, with two underscores between the steps. Its text is
a value of a small grammar, or else stands for itself. -/
namespace WorkloadLogin.Variables
open Text

def lower (cs : List Char) : List Char := cs.map Char.toLower

/-- The beginning of all variable names that count. -/
def nameStart : List Char := "INSTANCE_AUTHN__".toList

/-- A point for each pair of underscores. -/
def markSteps : List Char → List Char
  | '_' :: '_' :: cs => '.' :: markSteps cs
  | c :: cs => c :: markSteps cs
  | [] => []

/-- The steps that a variable name spells; none where a step is empty. -/
def path? (name : String) : Option (List String) :=
  let cs := trimBlank name.toList
  if (lower nameStart).isPrefixOf (lower cs) then
    let steps := Json.pathSteps (lower (trimBlank (markSteps (cs.drop nameStart.length))))
    if steps.contains "" then none else some steps
  else none

/-! The grammar of values -/

def isSpace (c : Char) : Bool :=
  c == ' ' || c == '\t' || c == '\n' || c == '\x0c' || c == '\r'

def isSeparator (c : Char) : Bool :=
  c == ',' || c == '\x7b' || c == '\x7d' || c == '[' || c == ']'

def skipSpace (cs : List Char) : List Char := cs.dropWhile isSpace

def escape? : Char → Option Char
  | 'b' => some '\x08'
  | 't' => some '\t'
  | 'n' => some '\n'
  | 'f' => some '\x0c'
  | 'r' => some '\r'
  | '"' => some '"'
  | '\\' => some '\\'
  | _ => none

/-- Controls, which a quoted text may hold only in escapes; the tab is not among them. -/
def isControl (c : Char) : Bool := (c.toNat < 0x20 && c != '\t') || c == '\x7f'

/-- The rest of a quoted text after its opening mark. -/
def readQuoted (acc : List Char) : List Char → Option (String × List Char)
  | '"' :: cs => some (String.ofList acc.reverse, cs)
  | '\\' :: 'u' :: a :: b :: c :: d :: cs =>
    match hexChar? [a, b, c, d] with
    | some x => readQuoted (x :: acc) cs
    | none => none
  | '\\' :: 'U' :: a :: b :: c :: d :: e :: f :: g :: h :: cs =>
    match hexChar? [a, b, c, d, e, f, g, h] with
    | some x => readQuoted (x :: acc) cs
    | none => none
  | '\\' :: e :: cs =>
    match escape? e with
    | some x => readQuoted (x :: acc) cs
    | none => none
  | c :: cs => if isControl c then none else readQuoted (c :: acc) cs
  | [] => none

/-- The whole number that a text writes, in the range of machine words of either sign. -/
def wholeNumber? (cs : List Char) : Option Int :=
  match cs with
  | '-' :: ds =>
    (natOfDigits? ds).bind fun n => if n ≤ 0x8000000000000000 then some (-(n : Int)) else none
  | '+' :: ds => (natOfDigits? ds).bind fun n => if n < UInt64.size then some (n : Int) else none
  | ds => (natOfDigits? ds).bind fun n => if n < UInt64.size then some (n : Int) else none

/-- The value of a bare text: a number if it looks like one. -/
def bare (cs : List Char) : Json :=
  let t := trimBlank cs
  if t.contains '.' ∧ (Numeral.parse? t).isSome then .decimal (String.ofList t)
  else
    match wholeNumber? t with
    | some n => .integer n
    | none => .string (String.ofList t)

def isKeyChar (c : Char) : Bool :=
  ('a' ≤ c && c ≤ 'z') || ('A' ≤ c && c ≤ 'Z') || isDigit c || c == '_' || c == '-'

/-- The name of a member, with blanks around it. -/
def readKey (cs : List Char) : Option (String × List Char) := do
  let (key, cs) ← match skipSpace cs with
    | '"' :: cs => readQuoted [] cs
    | cs =>
      let key := cs.takeWhile isKeyChar
      if key.isEmpty then none else some (String.ofList key, cs.drop key.length)
  match skipSpace cs with
  | '=' :: cs => some (key, cs)
  | _ => none

mutual
def readValue : (most : Nat) → List Char → Option (Json × List Char)
  | 0, _ => none
  | most + 1, cs =>
    let read : Option (Json × List Char) :=
      match skipSpace cs with
      | 't' :: 'r' :: 'u' :: 'e' :: cs => some (.bool true, cs)
      | 'f' :: 'a' :: 'l' :: 's' :: 'e' :: cs => some (.bool false, cs)
      | '\x7b' :: cs => (readMembers most cs).map fun (ms, cs) => (.object ms, cs)
      | '[' :: cs => (readItems most cs).map fun (vs, cs) => (.array vs, cs)
      | '"' :: cs => (readQuoted [] cs).map fun (s, cs) => (.string s, cs)
      | '\'' :: c :: '\'' :: cs => some (.string c.toString, cs)
      | '\'' :: _ => none
      | cs =>
        let text := cs.takeWhile fun c => !isSeparator c
        some (bare text, cs.drop text.length)
    read.map fun (v, cs) => (v, skipSpace cs)

/-- The items up to the closing bracket, which may follow a comma. -/
def readItems : (most : Nat) → List Char → Option (List Json × List Char)
  | 0, _ => none
  | _ + 1, ']' :: cs => some ([], cs)
  | most + 1, cs =>
    match readValue most cs with
    | some (v, ',' :: cs) => (readItems most cs).map fun (vs, cs) => (v :: vs, cs)
    | some (v, ']' :: cs) => some ([v], cs)
    | _ => none

def readMembers : (most : Nat) → List Char → Option (List (String × Json) × List Char)
  | 0, _ => none
  | _ + 1, '\x7d' :: cs => some ([], cs)
  | most + 1, cs =>
    match readKey cs with
    | none => none
    | some (key, cs) =>
      match readValue most cs with
      | some (v, ',' :: cs) => (readMembers most cs).map fun (ms, cs) => ((key, v) :: ms, cs)
      | some (v, '\x7d' :: cs) => some ([(key, v)], cs)
      | _ => none
end

/-- The value of a variable's text. -/
def parseValue (text : String) : Json :=
  let cs := text.toList
  match readValue (2 * cs.length + 2) cs with
  | some (v, []) => v
  | _ => .string text

/-- The tree of the variables that count: in the order of the environment, each is put over those
before it. -/
def tree (environment : List (String × String)) : Json :=
  let trees := environment.filterMap fun (name, text) =>
    (path? name).map fun steps => ((parseValue text).nest steps).normalize
  trees.foldl Json.merge (.object [])

end WorkloadLogin.Variables
