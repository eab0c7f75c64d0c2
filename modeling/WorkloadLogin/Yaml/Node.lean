import WorkloadLogin.Yaml.Token

/-! # Nodes

The tree of a document. A reference leads to a node by the number of an anchor: an anchor has the
number of different names that were met before it, so that a repeated name takes a number that the
next new name takes too, and a number stands for the last anchor that has it. -/
namespace WorkloadLogin.Yaml

inductive Node where
  | scalar (text : String) (isPlain : Bool) (tag : Option Tag)
  | sequence (items : List Node) (tag : Option Tag)
  | mapping (members : List (Node × Node)) (tag : Option Tag)
  | reference (number : Nat)
  deriving Inhabited

namespace Node

/-- What is left to read and what is known of handles and anchors. -/
structure Source where
  rest : List Token
  /-- What the handles of tags stand for. -/
  handles : List (String × List UInt8) := Tag.commonHandles
  /-- The numbers of anchor names. -/
  numbers : List (String × Nat) := []
  /-- The numbers of all anchors, latest first. -/
  anchors : List Nat := []
  /-- Nodes by the place of their anchor among all. -/
  anchored : List (Nat × Node) := []

abbrev Parse : Type → Type := StateT Source Option

def refuse {α : Type} : Parse α := fun _ => none

def peek : Parse (Option Token) := do return (← get).rest.head?

def advance : Parse Unit := modify fun s => { s with rest := s.rest.drop 1 }

/-- Takes the token if it is next. -/
def accept (t : Token) : Parse Bool := do
  if (← peek) = some t then
    advance
    return true
  else return false

def expect (t : Token) : Parse Unit := do
  if !(← accept t) then refuse

/-- The scalar that stands for a node that is not there. -/
def empty : Node := scalar "" true none

/-- The place of a node's anchor among all and its tag. -/
structure Properties where
  anchor : Option Nat := none
  tag : Option Tag := none

def Properties.isSome (p : Properties) : Bool := p.anchor.isSome || p.tag.isSome

/-- Numbers an anchor; its place is the number of anchors before it. -/
def placeAnchor (name : String) : Parse Nat := do
  let s ← get
  let number := s.numbers.length
  let others := s.numbers.filter fun n => n.1 != name
  set { s with numbers := (name, number) :: others, anchors := number :: s.anchors }
  return s.anchors.length

def anchor : Parse (Option Nat) := do
  match ← peek with
  | some (.anchor name) =>
    advance
    return some (← placeAnchor name)
  | _ => return none

def tag : Parse (Option Tag) := do
  match ← peek with
  | some (.tag t) =>
    advance
    match Tag.resolve? (← get).handles t with
    | some t => return some t
    | none => refuse
  | _ => return none

/-- Anchor and tag, each once, in either order. -/
def properties : Parse Properties := do
  match ← anchor with
  | some a => return ⟨some a, ← tag⟩
  | none =>
    match ← tag with
    | some t => return ⟨← anchor, some t⟩
    | none => return {}

/-- Where a node may stand: in a flow collection, in a block, or as the value of a block mapping,
where the entries of a sequence need not be indented. -/
inductive Place where
  | flow
  | block
  | blockValue
  deriving DecidableEq

def remember (p : Properties) (n : Node) : Parse Node := do
  match p.anchor with
  | some a =>
    modify fun s => { s with anchored := (a, n) :: s.anchored }
    return n
  | none => return n

mutual
def node (place : Place) : (most : Nat) → Parse Node
  | 0 => refuse
  | most + 1 => do
    match ← peek with
    | some (.reference name) =>
      advance
      match (← get).numbers.find? fun n => n.1 == name with
      | some (_, number) => return reference number
      | none => refuse
    | _ =>
      let p ← properties
      match ← peek with
      | some (.scalar text isPlain) =>
        advance
        remember p (scalar text isPlain p.tag)
      | some .flowSequence =>
        advance
        remember p (sequence (← flowItems true most) p.tag)
      | some .flowMapping =>
        advance
        remember p (mapping (← flowMembers true most) p.tag)
      | some .blockSequence =>
        if place = .flow then refuse
        else
          advance
          remember p (sequence (← blockItems most) p.tag)
      | some .blockMapping =>
        if place = .flow then refuse
        else
          advance
          remember p (mapping (← blockMembers most) p.tag)
      | some .blockEntry =>
        if place = .blockValue then remember p (sequence (← bareItems most) p.tag)
        else if p.isSome then remember p (scalar "" true p.tag)
        else refuse
      | _ =>
        if p.isSome then remember p (scalar "" true p.tag) else refuse

/-- A node, or nothing where one of these tokens is next. -/
def nodeUnless (stops : List Token) (place : Place) : (most : Nat) → Parse Node
  | 0 => refuse
  | most + 1 => do
    match ← peek with
    | some t => if stops.contains t then return empty else node place most
    | none => return empty

def blockItems : (most : Nat) → Parse (List Node)
  | 0 => refuse
  | most + 1 => do
    if ← accept .blockEnd then return []
    expect .blockEntry
    let n ← nodeUnless [.blockEntry, .blockEnd] .block most
    return n :: (← blockItems most)

/-- Entries that are not indented further than the mapping around them. -/
def bareItems : (most : Nat) → Parse (List Node)
  | 0 => refuse
  | most + 1 => do
    if ← accept .blockEntry then
      let n ← nodeUnless [.blockEntry, .key, .value, .blockEnd] .block most
      return n :: (← bareItems most)
    else return []

def blockMembers : (most : Nat) → Parse (List (Node × Node))
  | 0 => refuse
  | most + 1 => do
    if ← accept .blockEnd then return []
    expect .key
    let k ← nodeUnless [.key, .value, .blockEnd] .blockValue most
    let v ←
      if ← accept .value then nodeUnless [.key, .value, .blockEnd] .blockValue most
      else pure empty
    return (k, v) :: (← blockMembers most)

/-- A pair among the items needs no brackets. Where its key is missing it takes along the mark that
stands there. -/
def flowItems (first : Bool) : (most : Nat) → Parse (List Node)
  | 0 => refuse
  | most + 1 => do
    if ← accept .flowSequenceEnd then return []
    if !first then expect .flowEntry
    if ← accept .flowSequenceEnd then return []
    if ← accept .key then
      let k ← match ← peek with
        | some .value | some .flowEntry | some .flowSequenceEnd => do
          advance
          pure empty
        | _ => node .flow most
      let v ←
        if ← accept .value then nodeUnless [.flowEntry, .flowSequenceEnd] .flow most
        else pure empty
      return mapping [(k, v)] none :: (← flowItems false most)
    else
      let n ← node .flow most
      return n :: (← flowItems false most)

def flowMembers (first : Bool) : (most : Nat) → Parse (List (Node × Node))
  | 0 => refuse
  | most + 1 => do
    if ← accept .flowMappingEnd then return []
    if !first then expect .flowEntry
    if ← accept .flowMappingEnd then return []
    if ← accept .key then
      let k ← nodeUnless [.value, .flowEntry, .flowMappingEnd] .flow most
      let v ←
        if ← accept .value then nodeUnless [.flowEntry, .flowMappingEnd] .flow most
        else pure empty
      return (k, v) :: (← flowMembers false most)
    else
      let k ← node .flow most
      return (k, empty) :: (← flowMembers false most)
end

/-- The lines in front of a document: at most one version, and no handle twice. -/
def directives (versioned : Bool) (handles : List (String × List UInt8)) :
    (most : Nat) → Parse Bool
  | 0 => refuse
  | most + 1 => do
    match ← peek with
    | some (.directive (.version major minor)) =>
      advance
      if versioned || major != 1 || (minor != 1 && minor != 2) then refuse
      else directives true handles most
    | some (.directive (.handle name start)) =>
      advance
      if handles.any fun h => h.1 == name then refuse
      else directives versioned ((name, start) :: handles) most
    | _ =>
      modify fun s => { s with handles := handles ++ s.handles }
      return versioned || !handles.isEmpty

/-- Marks of document ends, and nothing behind them. -/
def documentEnds : (most : Nat) → Parse Unit
  | 0 => refuse
  | most + 1 => do
    if ← accept .documentEnd then documentEnds most
    else if (← peek).isSome then refuse

/-- The single document of a stream; none in an empty stream. -/
def document (most : Nat) : Parse (Option Node) := do
  let declared ← directives false [] most
  let started ← accept .documentStart
  if declared && !started then refuse
  let n ← if started then some <$> nodeUnless [.documentStart, .documentEnd] .block most
    else if (← peek).isSome then some <$> node .block most
    else pure none
  documentEnds most
  return n

end Node

structure Document where
  root : Node
  /-- Anchored nodes by number. -/
  anchored : List (Nat × Node)

namespace Document

/-- The document that a text writes; the outer option tells whether it writes at most one. -/
def parse? (text : String) : Option (Option Document) := do
  let tokens ← Token.scan? text
  let (n, s) ← (Node.document (4 * tokens.size + 8)).run { rest := tokens.toList }
  let places := s.anchors.reverse.zipIdx.reverse
  let anchored := places.filterMap fun (number, place) =>
    (s.anchored.find? fun a => a.1 == place).map fun a => (number, a.2)
  return n.map fun root => { root, anchored }

end Document
end WorkloadLogin.Yaml
