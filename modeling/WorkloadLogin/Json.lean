import WorkloadLogin.Entries

/-! # JSON values

A value keeps what later decisions depend on: whole numbers by value, every other numeral and
every string that is not Unicode text by its spelling, and object members in the order they were
written, repeated names included. -/
namespace WorkloadLogin

inductive Json where
  | null
  | bool (b : Bool)
  | integer (n : Int)
  /-- A numeral with a fraction, an exponent or a negative zero. -/
  | decimal (spelling : String)
  | string (s : String)
  /-- A string whose escapes name an unpaired surrogate. -/
  | unpaired (spelling : String)
  | array (items : List Json)
  | object (members : List (String × Json))
  /-- An object of which the name of some member names an unpaired surrogate. -/
  | illNamed (members : List (String × Json))
  deriving Inhabited

namespace Json

def sortMembers (ms : List (String × Json)) : List (String × Json) :=
  ms.foldl (fun sorted m => Entries.insert m.1 m.2 sorted) []

mutual
/-- The value with the members of every object ascending by name, the last of equal names kept. -/
def normalize : Json → Json
  | array items => array (normalizeItems items)
  | object members => object (sortMembers (normalizeMembers members))
  | v => v

def normalizeItems : List Json → List Json
  | [] => []
  | v :: vs => normalize v :: normalizeItems vs

def normalizeMembers : List (String × Json) → List (String × Json)
  | [] => []
  | (n, v) :: ms => (n, normalize v) :: normalizeMembers ms
end

/-- The last member of that name. -/
def member? (name : String) : Json → Option Json
  | object members => (members.reverse.find? fun m => m.1 == name).map Prod.snd
  | _ => none

def strings (ss : List String) : Json := array (ss.map string)

def nat (n : Nat) : Json := integer n

end Json
end WorkloadLogin
