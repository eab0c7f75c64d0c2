import WorkloadLogin.Encoding.Base64
import WorkloadLogin.Text.Blank

/-! # PEM

A text holds any number of blocks between boundary lines, with other text around them. A block has
a tag at both ends, may have headers above a blank line, and holds base64 in which blanks do not
count. One bad block makes the whole text bad. -/
namespace WorkloadLogin.Pem
open Text

structure Block where
  tag : String
  contents : Bytes
  deriving DecidableEq, Repr

inductive Error where
  | missingBegin
  | missingEnd
  | mismatched (opening closing : String)
  | data (e : Base64.Error)
  | header (line : String)
  deriving DecidableEq, Repr

def Error.message : Error → String
  | .missingBegin => "missing BEGIN tag"
  | .missingEnd => "missing END tag"
  | .mismatched opening closing =>
    "mismatching BEGIN (\"" ++ opening ++ "\") and END (\"" ++ closing ++ "\") tags"
  | .data e => "invalid data: " ++ e.message
  | .header line => "invalid header: " ++ line

/-- Looks for `marker` by counting how much of it has matched. A character that does not go on
with the marker starts the count anew and is not itself tried as a beginning. Gives what stands
before the marker, and after it. -/
def readUntil (marker : List Char) (matched : Nat) (read : List Char) :
    List Char → Option (List Char × List Char)
  | [] => none
  | c :: cs =>
    let matched := if marker[matched]? = some c then matched + 1 else 0
    if matched = marker.length then some ((read.drop (matched - 1)).reverse, cs)
    else readUntil marker matched (c :: read) cs

def upTo (marker : String) (cs : List Char) : Option (List Char × List Char) :=
  readUntil marker.toList 0 [] cs

def isSpace (c : Char) : Bool := c == ' ' || c == '\t' || c == '\n' || c == '\r'

/-- A block as it stands in the text. -/
structure Frame where
  opening : List Char
  body : List Char
  closing : List Char

/-- The first block of a text and what follows it. -/
def nextFrame (cs : List Char) : Option (Frame × List Char) := do
  let (_, cs) ← upTo "-----BEGIN " cs
  let (opening, cs) ← upTo "-----" cs
  let (body, cs) ← upTo "-----END " (cs.dropWhile isSpace)
  let (closing, cs) ← upTo "-----" cs
  return (⟨opening, body, closing⟩, cs.dropWhile isSpace)

/-- The blocks of a text in order, at most `most` of them. -/
def frames : (most : Nat) → List Char → List Frame
  | 0, _ => []
  | most + 1, cs =>
    match nextFrame cs with
    | some (f, rest) => f :: frames most rest
    | none => []

/-- Headers and data of a body. -/
def splitBody (body : List Char) : List Char × List Char :=
  match upTo "\n\n" body with
  | some parts => parts
  | none => (upTo "\r\n\r\n" body).getD ([], body)

/-- The lines of a text without their ends; what follows the last end is a line if not empty. -/
def lines (cs : List Char) : List (List Char) :=
  let parts := cs.splitOn '\n'
  (parts.dropLast.map fun l => if l.getLast? = some '\r' then l.dropLast else l) ++
    (parts.getLast?.filter fun l => !l.isEmpty).toList

def decodeFrame (f : Frame) : Except Error Block :=
  if f.opening.isEmpty then .error .missingBegin
  else if f.closing.isEmpty then .error .missingEnd
  else if f.opening ≠ f.closing then
    .error (.mismatched (String.ofList f.opening) (String.ofList f.closing))
  else
    let (headers, data) := splitBody f.body
    match Base64.decode .standard (Bytes.utf8 (data.filter fun c => !isBlank c)) with
    | .error e => .error (.data e)
    | .ok contents =>
      match (lines headers).find? fun l => !l.contains ':' with
      | some l => .error (.header (String.ofList l))
      | none => .ok ⟨String.ofList f.opening, contents⟩

/-- All blocks of a text. -/
def parse (text : String) : Except Error (List Block) :=
  let cs := text.toList
  (frames (cs.length + 1) cs).mapM decodeFrame

end WorkloadLogin.Pem
