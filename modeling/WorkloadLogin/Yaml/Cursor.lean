/-! # Places in a document

A cursor is what is left of a document and the line and column that this starts at. Lines end at
either of the usual controls or both, and at three more separators. -/
namespace WorkloadLogin.Yaml

structure Cursor where
  rest : List Char
  line : Nat := 0
  column : Nat := 0

def isSpace (c : Char) : Bool := c == ' ' || c == '\t'

def isBreak (c : Char) : Bool :=
  c == '\n' || c == '\r' || c == '\x85' || c == '\u2028' || c == '\u2029'

/-- Nothing, a space or the end of a line. -/
def isBlankOrEnd : List Char → Bool
  | [] => true
  | c :: _ => isSpace c || isBreak c

/-- What a line end stands for in a scalar. -/
def breakText (c : Char) : Char := if c == '\u2028' || c == '\u2029' then c else '\n'

/-- Characters that a document may hold. -/
def isAllowed (c : Char) : Bool :=
  let n := c.toNat
  n == 9 || n == 10 || n == 13 || (32 ≤ n && n ≤ 126) || n == 0x85 ||
    (0xA0 ≤ n && n ≤ 0xFFFD) || 0x10000 ≤ n

/-- The characters of names: of anchors, directives and the handles of tags. -/
def isWordChar (c : Char) : Bool :=
  ('a' ≤ c && c ≤ 'z') || ('A' ≤ c && c ≤ 'Z') || ('0' ≤ c && c ≤ '9') || c == '_' || c == '-'

namespace Cursor

/-- Past `n` characters of the line. -/
def skip (c : Cursor) (n : Nat) : Cursor :=
  { c with rest := c.rest.drop n, column := c.column + n }

/-- Past the line end that the cursor stands at. -/
def skipBreak (c : Cursor) : Cursor :=
  match c.rest with
  | '\r' :: '\n' :: cs => ⟨cs, c.line + 1, 0⟩
  | _ :: cs => ⟨cs, c.line + 1, 0⟩
  | [] => c

/-- At a later place of the line. -/
def moveTo (c : Cursor) (rest : List Char) : Cursor :=
  { c with rest := rest, column := c.column + (c.rest.length - rest.length) }

/-- Whether a line starts here with one of the marks between documents. -/
def atMark (c : Cursor) (mark : Char) : Bool :=
  match c.column, c.rest with
  | 0, a :: b :: d :: rest => a == mark && b == mark && d == mark && isBlankOrEnd rest
  | _, _ => false

def atDocumentMark (c : Cursor) : Bool := c.atMark '-' || c.atMark '.'

end Cursor
end WorkloadLogin.Yaml
