import WorkloadLogin.Json
import WorkloadLogin.Text.Decimal

/-! # Decoding JSON into records

A record shape names the members it knows and builds its value in two steps: members are taken
into a draft in the order in which they stand, then the draft is closed. The first problem met is
the one reported: an unknown or repeated member when it is visited, a missing one only at the end.
A record may also be written as an array of its members in the declared order. -/
namespace WorkloadLogin.Json

inductive Mismatch where
  | unknownField (name : String)
  | missingField (name : String)
  | duplicateField (name : String)
  | invalidLength
  | invalidValue
  /-- A value of the right JSON type whose content has no meaning for its member. -/
  | unreadable
  deriving DecidableEq, Repr

/-- A problem and the way to the value that has it. -/
structure DecodeError where
  path : List String
  mismatch : Mismatch
  deriving DecidableEq, Repr

/-- How arrays that are longer than their record are taken. -/
inductive Surplus where
  | refused
  | ignored
  deriving DecidableEq, Repr

def Decoder (α : Type) : Type := Surplus → Json → Except DecodeError α

namespace Decode
variable {α β σ : Type}

def fail (m : Mismatch) : Except DecodeError α := .error ⟨[], m⟩

/-- The result of a value that stands at `step` in its container. -/
def within (step : String) : Except DecodeError α → Except DecodeError α
  | .error e => .error { e with path := step :: e.path }
  | .ok a => .ok a

def text : Decoder String := fun _ v =>
  match v with
  | .string s => .ok s
  | _ => fail .invalidValue

def bool : Decoder Bool := fun _ v =>
  match v with
  | .bool b => .ok b
  | _ => fail .invalidValue

/-- A whole number in a closed range. -/
def wholeBetween (low high : Int) : Decoder Int := fun _ v =>
  match v with
  | .integer n => if low ≤ n ∧ n ≤ high then .ok n else fail .invalidValue
  | _ => fail .invalidValue

def word64 : Decoder UInt64 := fun surplus v =>
  (wholeBetween 0 0xffffffffffffffff surplus v).map fun n => UInt64.ofNat n.toNat

def int64 : Decoder Int := wholeBetween (-0x8000000000000000) 0x7fffffffffffffff

/-- `null` for nothing. -/
def optional (d : Decoder α) : Decoder (Option α) := fun surplus v =>
  match v with
  | .null => .ok none
  | v => (d surplus v).map some

def itemsFrom (item : Json → Except DecodeError α) (index : Nat) :
    List Json → Except DecodeError (List α)
  | [] => .ok []
  | v :: vs => do
    let a ← within (Text.decimal index) (item v)
    let as ← itemsFrom item (index + 1) vs
    return a :: as

def list (d : Decoder α) : Decoder (List α) := fun surplus v =>
  match v with
  | .array items => itemsFrom (d surplus) 0 items
  | _ => fail .invalidValue

def entries (entry : Json → Except DecodeError α) :
    List (String × Json) → Except DecodeError (List (String × α))
  | [] => .ok []
  | (n, v) :: ms => do
    let a ← within n (entry v)
    let as ← entries entry ms
    return (n, a) :: as

/-- An object whose member names are free. -/
def dictionary (d : Decoder α) : Decoder (List (String × α)) := fun surplus v =>
  match v with
  | .object members => entries (d surplus) members
  | _ => fail .invalidValue

def listOfTexts : Decoder (List String) := list text

end Decode

/-- One declared member of a record, read into the draft `σ`. -/
structure Field (σ : Type) where
  name : String
  read : Surplus → Json → σ → Except DecodeError σ

namespace Field
variable {α σ : Type}

def of (name : String) (d : Decoder α) (set : σ → α → σ) : Field σ where
  name := name
  read surplus v s := (d surplus v).map (set s)

end Field

structure Shape (σ α : Type) where
  blank : σ
  fields : List (Field σ)
  /-- Members that are not declared are passed over. -/
  openEnded : Bool := false
  close : σ → Except Mismatch α

namespace Shape
variable {σ α : Type}

def field? (shape : Shape σ α) (name : String) : Option (Field σ) :=
  shape.fields.find? fun f => f.name == name

def takeMembers (shape : Shape σ α) (surplus : Surplus) :
    List String → σ → List (String × Json) → Except DecodeError σ
  | _, s, [] => .ok s
  | seen, s, (n, v) :: ms =>
    match shape.field? n with
    | none =>
      if shape.openEnded then shape.takeMembers surplus seen s ms
      else .error ⟨[n], .unknownField n⟩
    | some f =>
      if seen.contains n then Decode.fail (.duplicateField n)
      else
        match Decode.within n (f.read surplus v s) with
        | .error e => .error e
        | .ok s => shape.takeMembers surplus (n :: seen) s ms

def takeItems (surplus : Surplus) : List (Field σ) → Nat → σ → List Json → Except DecodeError σ
  | [], _, s, rest =>
    if rest.isEmpty || surplus == .ignored then .ok s else Decode.fail .invalidLength
  | _ :: _, _, s, [] => .ok s
  | f :: fs, index, s, v :: vs =>
    match Decode.within (Text.decimal index) (f.read surplus v s) with
    | .error e => .error e
    | .ok s => takeItems surplus fs (index + 1) s vs

def decode (shape : Shape σ α) : Decoder α := fun surplus v =>
  match v with
  | .object members =>
    match shape.takeMembers surplus [] shape.blank members with
    | .error e => .error e
    | .ok s =>
      match shape.close s with
      | .error m => Decode.fail m
      | .ok a => .ok a
  | .array items =>
    match takeItems surplus shape.fields 0 shape.blank items with
    | .error e => .error e
    | .ok s =>
      match shape.close s with
      | .error _ => Decode.fail .invalidLength
      | .ok a => .ok a
  | _ => Decode.fail .invalidValue

end Shape

/-- A required member that was not given. -/
def needed {α : Type} (name : String) : Option α → Except Mismatch α
  | some a => .ok a
  | none => .error (.missingField name)

end WorkloadLogin.Json
