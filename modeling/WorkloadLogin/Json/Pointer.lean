import WorkloadLogin.Json
import WorkloadLogin.Text.Decimal

/-! # Places in a JSON value

A pointer names a place by the members and items on the way to it, each after a solidus; `~1`
stands for a solidus in a name and `~0` for the tilde. A place that is not there takes no value. -/
namespace WorkloadLogin.Json
open Text

def unescapeName : List Char → List Char
  | '~' :: '1' :: cs => '/' :: unescapeName cs
  | '~' :: '0' :: cs => '~' :: unescapeName cs
  | c :: cs => c :: unescapeName cs
  | [] => []

/-- The names of a pointer, outermost first. -/
def pointerPath? (pointer : String) : Option (List String) :=
  match pointer.toList with
  | [] => some []
  | '/' :: cs => some ((cs.splitOn '/').map fun cs => String.ofList (unescapeName cs))
  | _ => none

/-- The item that a name stands for: a number without needless zeros. -/
def itemNumber? (name : String) : Option Nat :=
  match name.toList with
  | '0' :: _ :: _ => none
  | cs => natOfDigits? cs

def changeMember (name : String) (change : Json → Json) (members : List (String × Json)) :
    List (String × Json) :=
  members.map fun (n, v) => if n = name then (n, change v) else (n, v)

/-- The value with `new` at the end of a path. -/
def setPath (new : Json) : List String → Json → Json
  | [], _ => new
  | name :: path, object members => object (changeMember name (setPath new path) members)
  | name :: path, array items =>
    match itemNumber? name with
    | some i => array (items.modify i (setPath new path))
    | none => array items
  | _ :: _, v => v

def setAt (v : Json) (pointer : String) (new : Json) : Json :=
  match pointerPath? pointer with
  | some path => setPath new path v
  | none => v

end WorkloadLogin.Json
