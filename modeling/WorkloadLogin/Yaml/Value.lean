import WorkloadLogin.Json.Nested
import WorkloadLogin.Text.Numeral
import WorkloadLogin.Yaml.Node

/-! # Values of documents

A plain scalar without a tag is what its text looks like, and the name of a member is the text of
its scalar. The value of an alternative stands behind the path that its tag spells. References are
followed where they stand; collections may be nested 128 deep, and a document may hold references
to many others only within bounds. -/
namespace WorkloadLogin.Yaml
open Text

/-! Scalars -/

/-- A digit run that starts with a zero is not a number. -/
def isPaddedRun (cs : List Char) : Bool :=
  let ds := match cs with
    | '+' :: cs => cs
    | '-' :: cs => cs
    | cs => cs
  ds.length > 1 && ds.head? == some '0' && ds.all isDigit

/-- The number that digits of a base write. -/
def digitsIn? (base : Nat) (ds : List Char) : Option Nat :=
  if ds.isEmpty then none
  else
    ds.foldlM (fun n d => do
      let h ← hexValue? d
      if h < base then some (n * base + h) else none) 0

/-- The digits behind an optional sign, in the base that their first two characters name. -/
def unsigned? : List Char → Option Nat
  | '0' :: 'x' :: ds => digitsIn? 16 ds
  | '0' :: 'o' :: ds => digitsIn? 8 ds
  | '0' :: 'b' :: ds => digitsIn? 2 ds
  | ds => if isPaddedRun ds then none else digitsIn? 10 ds

/-- Bound of the magnitudes that integers have: double words, where negative ones have a sign. -/
def magnitudeBound : Nat := UInt64.size * UInt64.size

def integer? (text : String) : Option Int :=
  match text.toList with
  | '-' :: ds =>
    (unsigned? ds).bind fun n => if 2 * n ≤ magnitudeBound then some (-(n : Int)) else none
  | '+' :: ds => (unsigned? ds).bind fun n => if n < magnitudeBound then some (n : Int) else none
  | ds => (unsigned? ds).bind fun n => if n < magnitudeBound then some (n : Int) else none

def nullTexts : List String := ["~", "null", "Null", "NULL"]

def trueTexts : List String := ["true", "True", "TRUE"]

def falseTexts : List String := ["false", "False", "FALSE"]

def boolean? (text : String) : Option Bool :=
  if trueTexts.contains text then some true
  else if falseTexts.contains text then some false
  else none

def specialFloats : List String :=
  [".inf", ".Inf", ".INF", "+.inf", "+.Inf", "+.INF", "-.inf", "-.Inf", "-.INF", ".nan", ".NaN",
    ".NAN"]

def isFloat (text : String) : Bool :=
  specialFloats.contains text || (Numeral.parse? text.toList).any Numeral.isFinite

/-- What a plain scalar looks like. -/
def plainJson (text : String) : Json :=
  if text.isEmpty || nullTexts.contains text then .null
  else
    match boolean? text, integer? text with
    | some b, _ => .bool b
    | none, some n => .integer n
    | none, none => if !isPaddedRun text.toList && isFloat text then .decimal text else .string text

/-- The value of a scalar; none where its tag asks for one that its text does not write. -/
def scalarJson? (text : String) (isPlain : Bool) : Option Tag → Option Json
  | some .boolean => (boolean? text).map .bool
  | some .integer => (integer? text).map .integer
  | some .float => if isFloat text then some (.decimal text) else none
  | some .null => if nullTexts.contains text then some .null else none
  | some .other => some (.string text)
  | _ => some (if isPlain then plainJson text else .string text)

/-! Nodes -/

mutual
/-- Nodes of a tree, where the end of a collection counts as one more. -/
def Node.size : Node → Nat
  | .scalar _ _ _ | .reference _ => 1
  | .sequence items _ => Node.sizes items + 2
  | .mapping members _ => Node.memberSizes members + 2

def Node.sizes : List Node → Nat
  | [] => 0
  | n :: ns => n.size + Node.sizes ns

def Node.memberSizes : List (Node × Node) → Nat
  | [] => 0
  | (k, v) :: ms => k.size + v.size + Node.memberSizes ms
end

namespace Document

/-- A reading of a document, which knows how many references may still be followed. -/
abbrev Reading : Type → Type := StateT Nat Option

def refuse {α : Type} : Reading α := fun _ => none

/-- The node itself, or the one that it refers to. -/
def follow (d : Document) : Node → Reading Node
  | .reference number => fun left =>
    match left, d.anchored.find? fun a => a.1 == number with
    | left + 1, some (_, n) => some (n, left)
    | _, _ => none
  | n => pure n

def name (d : Document) (n : Node) : Reading String := do
  match ← d.follow n with
  | .scalar text _ _ => return text
  | _ => refuse

/-- The value behind the path of an alternative. -/
def tagged (tag : Option Tag) (v : Json) : Json :=
  match tag with
  | some (.alternative path) => v.nestAt path
  | _ => v

/-- The value of a node with at most `depth` collections around one another. -/
def json (d : Document) : (depth : Nat) → Node → Reading Json
  | 0, n => do
    match ← d.follow n with
    | .scalar text isPlain tag => scalar text isPlain tag
    | _ => refuse
  | depth + 1, n => do
    match ← d.follow n with
    | .scalar text isPlain tag => scalar text isPlain tag
    | .sequence items tag => return tagged tag (.array (← items.mapM fun n => d.json depth n))
    | .mapping members tag =>
      let ms ← members.mapM fun (k, v) => do return (← d.name k, ← d.json depth v)
      return tagged tag (.object ms)
    | .reference _ => refuse
where
  scalar (text : String) (isPlain : Bool) (tag : Option Tag) : Reading Json :=
    fun left => (scalarJson? text isPlain tag).map fun v => (tagged tag v, left)

def mostDepth : Nat := 128

/-- References that may be followed for each node. -/
def referencesPerNode : Nat := 100

/-- The mapping at the root, whatever its tag; a scalar without text is an empty one. -/
def mapping? (d : Document) : Option Json :=
  match d.root with
  | .mapping members _ =>
    ((d.json mostDepth (.mapping members none)).run (referencesPerNode * d.root.size)).map Prod.fst
  | .scalar text _ _ => if text.isEmpty then some (.object []) else none
  | _ => none

end Document

/-- The mapping that a document writes; an empty stream writes an empty one. -/
def readMapping? (text : String) : Option Json :=
  match Document.parse? text with
  | some none => some (.object [])
  | some (some d) => d.mapping?
  | none => none

end WorkloadLogin.Yaml
