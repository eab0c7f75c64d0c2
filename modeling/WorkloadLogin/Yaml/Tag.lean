import WorkloadLogin.Text.Hexadecimal
import WorkloadLogin.Yaml.Cursor

/-! # Tags

A tag is written whole, between angle brackets, or as a handle with a suffix; what a handle stands
for is declared in front of the document. Octets of a tag may be written as escapes. -/
namespace WorkloadLogin.Yaml

/-- A tag as it is written. -/
inductive WrittenTag where
  | whole (octets : List UInt8)
  | shorthand (handle : String) (suffix : List UInt8)
  deriving DecidableEq, Repr

/-- What a tag says about its value. -/
inductive Tag where
  | boolean
  | integer
  | float
  | null
  /-- The name of an alternative, which the value belongs to. -/
  | alternative (name : String)
  /-- An alternative whose name is not text. -/
  | unnamed
  | other
  deriving DecidableEq, Repr

namespace Tag

def octetsOf (s : String) : List UInt8 := s.toUTF8.toList

/-- What the two handles that need no declaration stand for. -/
def commonHandles : List (String × List UInt8) :=
  [("!", octetsOf "!"), ("!!", octetsOf "tag:yaml.org,2002:")]

def core : List (List UInt8 × Tag) :=
  [("bool", boolean), ("int", integer), ("float", float), ("null", null)].map fun (name, t) =>
    (octetsOf ("tag:yaml.org,2002:" ++ name), t)

/-- The mark in front of the name of an alternative is dropped, if a name is left. -/
def ofOctets (octets : List UInt8) : Tag :=
  match octets with
  | 33 :: name =>
    match String.fromUTF8? ⟨(if name.isEmpty then octets else name).toArray⟩ with
    | some name => alternative name
    | none => unnamed
  | _ => ((core.find? fun c => c.1 == octets).map Prod.snd).getD other

/-- The meaning of a tag where handles stand for the given beginnings. -/
def resolve? (handles : List (String × List UInt8)) : WrittenTag → Option Tag
  | .whole octets => some (ofOctets octets)
  | .shorthand handle suffix =>
    (handles.find? fun h => h.1 == handle).map fun h => ofOctets (h.2 ++ suffix)

end Tag

namespace WrittenTag

/-- Between angle brackets, and in declarations, the marks of flow collections count too. -/
def isTagChar (wide : Bool) (c : Char) : Bool :=
  isWordChar c || ";/?:@&=+$.!~*'()".toList.contains c || (wide && ",[]".toList.contains c)

/-- Octets that follow one that starts a character. -/
def octetsAfter? (octet : Nat) : Option Nat :=
  if octet < 0x80 then some 0
  else if octet < 0xC0 then none
  else if octet < 0xE0 then some 1
  else if octet < 0xF0 then some 2
  else if octet < 0xF8 then some 3
  else none

/-- The octets at the head of a text; `due` more are due as escapes. -/
def readOctets (wide : Bool) : (due : Nat) → List Char → Option (List UInt8 × List Char)
  | due, '%' :: a :: b :: cs => do
    let octet := (← Text.hexValue? a) * 16 + (← Text.hexValue? b)
    let due ← match due with
      | 0 => octetsAfter? octet
      | due + 1 => if octet / 64 = 2 then some due else none
    let (octets, rest) ← readOctets wide due cs
    return (UInt8.ofNat octet :: octets, rest)
  | 0, c :: cs =>
    if isTagChar wide c then
      (readOctets wide 0 cs).map fun (octets, rest) => (c.toUInt8 :: octets, rest)
    else if c = '%' then none
    else some ([], c :: cs)
  | 0, [] => some ([], [])
  | _, _ => none

/-- The octets at the head of a text; those from a zero on do not count. -/
def octets? (wide : Bool) (cs : List Char) : Option (List UInt8 × List Char) :=
  (readOctets wide 0 cs).map fun (octets, rest) => (octets.takeWhile (· != 0), rest)

/-- The octets at the head of a text, of which there must be some. -/
def someOctets? (wide : Bool) (cs : List Char) : Option (List UInt8 × List Char) :=
  match octets? wide cs with
  | some (octets, rest) => if rest.length = cs.length then none else some (octets, rest)
  | none => none

/-- A handle between two marks, at the head of a text. -/
def handle? : List Char → Option (String × List Char)
  | '!' :: cs =>
    let word := cs.takeWhile isWordChar
    match cs.drop word.length with
    | '!' :: rest => some (String.ofList ('!' :: word ++ ['!']), rest)
    | _ => none
  | _ => none

/-- The tag at the head of a text. A mark on its own is a whole tag. -/
def read? (cs : List Char) : Option (WrittenTag × List Char) :=
  match cs with
  | '!' :: '<' :: cs =>
    match someOctets? true cs with
    | some (octets, '>' :: rest) => some (whole octets, rest)
    | _ => none
  | cs =>
    match handle? cs with
    | some (handle, rest) =>
      (someOctets? false rest).map fun (suffix, rest) => (shorthand handle suffix, rest)
    | none =>
      (octets? false (cs.drop 1)).map fun (suffix, rest) =>
        (if suffix.isEmpty then whole (Tag.octetsOf "!") else shorthand "!" suffix, rest)

end WrittenTag

/-- A line in front of a document. -/
inductive Directive where
  | version (major minor : Nat)
  /-- Declares what a handle stands for. -/
  | handle (name : String) (start : List UInt8)
  deriving DecidableEq, Repr

namespace Directive

/-- A number of up to nine digits at the head of a text. -/
def readNumber (cs : List Char) : Option (Nat × List Char) :=
  let ds := cs.takeWhile Char.isDigit
  if ds.isEmpty || ds.length > 9 then none
  else some (ds.foldl (fun n d => n * 10 + (d.toNat - '0'.toNat)) 0, cs.drop ds.length)

def readVersion (cs : List Char) : Option (Directive × List Char) := do
  let (major, rest) ← readNumber (cs.dropWhile isSpace)
  match rest with
  | '.' :: rest =>
    let (minor, rest) ← readNumber rest
    return (version major minor, rest)
  | _ => none

/-- A handle, which may be a single mark, blanks and what the handle stands for. -/
def readHandle (cs : List Char) : Option (Directive × List Char) := do
  let cs := cs.dropWhile isSpace
  let (name, rest) ← match WrittenTag.handle? cs, cs with
    | some h, _ => some h
    | none, '!' :: rest => some ("!", rest)
    | none, _ => none
  if !rest.head?.any isSpace then none
  let (start, rest) ← WrittenTag.someOctets? true (rest.dropWhile isSpace)
  if isBlankOrEnd rest then some (handle name start, rest) else none

/-- The directive at the head of a text, from behind its mark, with the rest of its line, which
holds at most a comment. -/
def read? (cs : List Char) : Option (Directive × List Char) := do
  let name := cs.takeWhile isWordChar
  let rest := cs.drop name.length
  if !isBlankOrEnd rest then none
  let (d, rest) ←
    if name = "YAML".toList then readVersion rest
    else if name = "TAG".toList then readHandle rest
    else none
  let rest := rest.dropWhile isSpace
  let rest := if rest.head? = some '#' then rest.dropWhile (!isBreak ·) else rest
  if rest.isEmpty || rest.head?.any isBreak then some (d, rest) else none

end Directive
end WorkloadLogin.Yaml
