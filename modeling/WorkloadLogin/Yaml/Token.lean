import WorkloadLogin.Yaml.Scalar
import WorkloadLogin.Yaml.Tag

/-! # Tokens

Indentation becomes brackets: a collection opens where the indentation grows and closes where it
shrinks. Whether a token was the key of a mapping shows only at the colon behind it, so that keys
are marked after the fact. -/
namespace WorkloadLogin.Yaml

inductive Token where
  /-- A document start must follow. -/
  | directive (d : Directive)
  | documentStart
  | documentEnd
  | blockSequence
  | blockMapping
  | blockEnd
  | flowSequence
  | flowSequenceEnd
  | flowMapping
  | flowMappingEnd
  | blockEntry
  | flowEntry
  | key
  | value
  | reference (name : String)
  | anchor (name : String)
  | tag (t : WrittenTag)
  | scalar (text : String) (isPlain : Bool)
  deriving DecidableEq, Repr

/-- A token that may turn out to be a key. -/
structure Candidate where
  /-- Its number among the tokens. -/
  index : Nat
  /-- Characters that are left of the document where it starts. -/
  left : Nat
  line : Nat
  column : Nat
  /-- Nothing else than a key may stand here. -/
  required : Bool

structure Scanner where
  cursor : Cursor
  tokens : Array Token := #[]
  /-- Columns of the open block collections, innermost first. -/
  indents : List Int := []
  /-- Candidates of the open flow collections, innermost first; the last is the document's. -/
  candidates : List (Option Candidate) := [none]
  keyAllowed : Bool := true

namespace Scanner

def inFlow (s : Scanner) : Bool := s.candidates.length > 1

def indent (s : Scanner) : Int := s.indents.headD (-1)

def emit (s : Scanner) (t : Token) : Scanner := { s with tokens := s.tokens.push t }

def candidate? (s : Scanner) : Option Candidate := s.candidates.head?.join

def setCandidate (s : Scanner) (c : Option Candidate) : Scanner :=
  { s with candidates := c :: s.candidates.drop 1 }

/-- Gives up the candidate; none where it had to be a key. -/
def dropCandidate (s : Scanner) : Option Scanner :=
  match s.candidate? with
  | some c => if c.required then none else some (s.setCandidate none)
  | none => some s

/-- A key fits on one line and is at most 1024 characters long. -/
def dropStale (s : Scanner) : Option Scanner :=
  let left := s.cursor.rest.length
  let stale (c : Candidate) : Bool := c.line < s.cursor.line || left + 1024 < c.left
  if s.candidates.any fun c => c.any fun c => stale c && c.required then none
  else some { s with candidates := s.candidates.map fun c => c.filter fun c => !stale c }

/-- Makes the next token a candidate, where keys are allowed. -/
def saveCandidate (s : Scanner) : Option Scanner :=
  if s.keyAllowed then
    (s.dropCandidate).map fun t =>
      t.setCandidate <| some
        { index := t.tokens.size
          left := t.cursor.rest.length
          line := t.cursor.line
          column := t.cursor.column
          required := !t.inFlow && t.indent == t.cursor.column }
  else some s

/-- Opens a block collection at a column, with its token at `index`. -/
def roll (s : Scanner) (column index : Nat) (t : Token) : Scanner :=
  if s.inFlow || s.indent ≥ column then s
  else
    { s with
      indents := column :: s.indents
      tokens := s.tokens.extract 0 index ++ #[t] ++ s.tokens.extract index s.tokens.size }

/-- Closes the block collections right of a column. -/
def unroll (s : Scanner) (column : Int) : Scanner :=
  if s.inFlow then s
  else
    let closed := s.indents.takeWhile (· > column)
    { s with
      indents := s.indents.drop closed.length
      tokens := s.tokens ++ Array.replicate closed.length .blockEnd }

def skip (s : Scanner) (n : Nat) : Scanner := { s with cursor := s.cursor.skip n }

def moveTo (s : Scanner) (rest : List Char) : Scanner := { s with cursor := s.cursor.moveTo rest }

/-- To the next token: past blanks, comments and line ends, and past a byte order mark that starts
a line. Tabs do not indent a block. -/
def skipToToken : (most : Nat) → Scanner → Scanner
  | 0, s => s
  | most + 1, s =>
    let tabs := s.inFlow || !s.keyAllowed
    let s := if s.cursor.column = 0 ∧ s.cursor.rest.head? = some '\ufeff' then s.skip 1 else s
    let s := s.skip (s.cursor.rest.takeWhile fun c => c == ' ' || (tabs && c == '\t')).length
    let s :=
      if s.cursor.rest.head? == some '#' then
        s.skip (s.cursor.rest.takeWhile fun c => !isBreak c).length
      else s
    if s.cursor.rest.head?.any isBreak then
      skipToToken most
        { s with cursor := s.cursor.skipBreak, keyAllowed := s.keyAllowed || !s.inFlow }
    else s

/-- The name behind an anchor or alias mark. -/
def scanName (make : String → Token) (s : Scanner) : Option Scanner := do
  let s ← s.saveCandidate
  let s := { s with keyAllowed := false }.skip 1
  let name := s.cursor.rest.takeWhile isWordChar
  let rest := s.cursor.rest.drop name.length
  let ends := isBlankOrEnd rest || rest.head?.any fun c => "?:,]\x7d%@\x60".toList.contains c
  if name.isEmpty || !ends then none
  return (s.emit (make (String.ofList name))).moveTo rest

/-- A tag ends before a blank; in a flow collection also before a comma. -/
def scanTag (s : Scanner) : Option Scanner := do
  let s ← s.saveCandidate
  let (tag, rest) ← WrittenTag.read? s.cursor.rest
  if !isBlankOrEnd rest && !(s.inFlow && rest.head? == some ',') then none
  return ({ s with keyAllowed := false }.emit (.tag tag)).moveTo rest

def openFlow (s : Scanner) (t : Token) : Option Scanner := do
  let s ← s.saveCandidate
  return ({ s with candidates := none :: s.candidates, keyAllowed := true }.emit t).skip 1

def closeFlow (s : Scanner) (t : Token) : Option Scanner := do
  let s ← s.dropCandidate
  let candidates := if s.inFlow then s.candidates.drop 1 else s.candidates
  return ({ s with candidates, keyAllowed := false }.emit t).skip 1

def scanFlowEntry (s : Scanner) : Option Scanner := do
  let s ← s.dropCandidate
  return ({ s with keyAllowed := true }.emit .flowEntry).skip 1

def scanBlockEntry (s : Scanner) : Option Scanner := do
  if !s.inFlow && !s.keyAllowed then none
  let s := s.roll s.cursor.column s.tokens.size .blockSequence
  let s ← s.dropCandidate
  return ({ s with keyAllowed := true }.emit .blockEntry).skip 1

def scanKey (s : Scanner) : Option Scanner := do
  if !s.inFlow && !s.keyAllowed then none
  let s := s.roll s.cursor.column s.tokens.size .blockMapping
  let s ← s.dropCandidate
  return ({ s with keyAllowed := !s.inFlow }.emit .key).skip 1

def scanValue (s : Scanner) : Option Scanner :=
  match s.candidate? with
  | some c =>
    let tokens := s.tokens.extract 0 c.index ++ #[.key] ++ s.tokens.extract c.index s.tokens.size
    let s := { s with tokens }.roll c.column c.index .blockMapping
    let s := { s.setCandidate none with keyAllowed := false }
    some ((s.emit .value).skip 1)
  | none =>
    if !s.inFlow && !s.keyAllowed then none
    else
      let s := s.roll s.cursor.column s.tokens.size .blockMapping
      some (({ s with keyAllowed := !s.inFlow }.emit .value).skip 1)

def scanBlockScalar (literal : Bool) (s : Scanner) : Option Scanner := do
  let s ← s.dropCandidate
  let r ← block literal s.indent (s.cursor.skip 1)
  return { s with cursor := r.cursor, keyAllowed := true }.emit
    (.scalar (String.ofList r.text) false)

def scanQuoted (double : Bool) (s : Scanner) : Option Scanner := do
  let s ← s.saveCandidate
  let r ← quoted double (s.cursor.skip 1)
  return { s with cursor := r.cursor, keyAllowed := false }.emit
    (.scalar (String.ofList r.text) false)

def scanPlain (s : Scanner) : Option Scanner := do
  let s ← s.saveCandidate
  let r ← plain s.inFlow (s.indent + 1) s.cursor
  return { s with cursor := r.cursor, keyAllowed := r.lineEnded }.emit
    (.scalar (String.ofList r.text) true)

def scanMark (s : Scanner) (t : Token) : Option Scanner := do
  let s ← (s.unroll (-1)).dropCandidate
  return ({ s with keyAllowed := false }.emit t).skip 3

/-- A line in front of a document. -/
def scanDirective (s : Scanner) : Option Scanner := do
  let s ← (s.unroll (-1)).dropCandidate
  let (d, rest) ← Directive.read? (s.cursor.rest.drop 1)
  let s := ({ s with keyAllowed := false }.emit (.directive d)).moveTo rest
  return { s with cursor := s.cursor.skipBreak }

/-- Whether a character that is a mark in some places starts a plain scalar here. -/
def startsPlain (flow : Bool) (c : Char) (rest : List Char) : Bool :=
  if "-?:,[]\x7b\x7d#&*!|>'\"%@\x60".toList.contains c then
    (c == '-' && !rest.head?.any isSpace) ||
      (!flow && (c == '?' || c == ':') && !isBlankOrEnd rest)
  else !isSpace c && !isBreak c

/-- The token at the cursor. -/
def scanToken (s : Scanner) : Option Scanner :=
  match s.cursor.rest with
  | [] => none
  | c :: rest =>
    let spaced := isBlankOrEnd rest
    if s.cursor.column = 0 ∧ c = '%' then s.scanDirective
    else if s.cursor.atMark '-' then s.scanMark .documentStart
    else if s.cursor.atMark '.' then s.scanMark .documentEnd
    else if c = '[' then s.openFlow .flowSequence
    else if c = '\x7b' then s.openFlow .flowMapping
    else if c = ']' then s.closeFlow .flowSequenceEnd
    else if c = '\x7d' then s.closeFlow .flowMappingEnd
    else if c = ',' then s.scanFlowEntry
    else if c = '-' ∧ spaced then s.scanBlockEntry
    else if c = '?' ∧ (s.inFlow ∨ spaced) then s.scanKey
    else if c = ':' ∧ (s.inFlow ∨ spaced) then s.scanValue
    else if c = '*' then s.scanName .reference
    else if c = '&' then s.scanName .anchor
    else if c = '!' then s.scanTag
    else if c = '|' ∧ !s.inFlow then s.scanBlockScalar true
    else if c = '>' ∧ !s.inFlow then s.scanBlockScalar false
    else if c = '\'' then s.scanQuoted false
    else if c = '"' then s.scanQuoted true
    else if startsPlain s.inFlow c rest then s.scanPlain
    else none

/-- Scans to the end of the document stream. -/
def scanAll : (most : Nat) → Scanner → Option (Array Token)
  | 0, _ => none
  | most + 1, s => do
    let s := s.skipToToken (s.cursor.rest.length + 1)
    let s ← s.dropStale
    let s := s.unroll s.cursor.column
    if s.cursor.rest.isEmpty then
      let s ← (s.unroll (-1)).dropCandidate
      return s.tokens
    else scanAll most (← s.scanToken)

end Scanner

/-- The tokens of a document stream. -/
def Token.scan? (text : String) : Option (Array Token) :=
  let cs := text.toList
  if cs.all isAllowed then Scanner.scanAll (cs.length + 2) { cursor := ⟨cs, 0, 0⟩ } else none

end WorkloadLogin.Yaml
