import WorkloadLogin.Text.Hexadecimal
import WorkloadLogin.Yaml.Cursor

/-! # Scalars

The four written forms of a scalar. In plain and quoted ones a single line end is a space and each
further one a line end; block scalars keep or fold theirs as their header says. -/
namespace WorkloadLogin.Yaml

/-- Blanks and line ends between two words, latest first. -/
structure Gap where
  spaces : List Char := []
  breaks : List Char := []

/-- What a gap stands for. After an escaped line end (`joined`) no space is put in. -/
def Gap.fold (g : Gap) (joined : Bool) : List Char :=
  if joined then g.breaks.reverse
  else
    match g.breaks.reverse with
    | [] => g.spaces.reverse
    | '\n' :: [] => [' ']
    | '\n' :: more => more
    | bs => bs

/-- Reads a gap. Tabs left of `margin` are refused in later lines; `broken` tells that a line end
came before. -/
def readGap (margin : Int) (broken : Bool) (line column : Nat) (g : Gap) :
    List Char → Option (Gap × Cursor)
  | [] => some (g, ⟨[], line, column⟩)
  | '\r' :: '\n' :: cs =>
    readGap margin broken (line + 1) 0 { g with breaks := '\n' :: g.breaks } cs
  | c :: cs =>
    let later := broken || !g.breaks.isEmpty
    if isSpace c then
      if later && c == '\t' && (column : Int) < margin then none
      else
        readGap margin broken line (column + 1)
          (if later then g else { g with spaces := c :: g.spaces }) cs
    else if isBreak c then
      readGap margin broken (line + 1) 0 { g with breaks := breakText c :: g.breaks } cs
    else some (g, ⟨c :: cs, line, column⟩)

def Cursor.gap (c : Cursor) (margin : Int) (broken : Bool) : Option (Gap × Cursor) :=
  readGap margin broken c.line c.column {} c.rest

/-! Plain scalars -/

def isFlowMark (c : Char) : Bool :=
  c == ',' || c == '[' || c == ']' || c == '\x7b' || c == '\x7d'

/-- The word at the head of a text; none where a colon stands before a flow mark. -/
def plainWord (flow : Bool) : List Char → Option (List Char × List Char)
  | [] => some ([], [])
  | c :: cs =>
    if isSpace c || isBreak c then some ([], c :: cs)
    else if flow && c == ':' && cs.head?.any (fun d => isFlowMark d || d == '?') then none
    else if (c == ':' && isBlankOrEnd cs) || (flow && isFlowMark c) then some ([], c :: cs)
    else (plainWord flow cs).map fun (w, rest) => (c :: w, rest)

/-- What was read of a scalar, and whether a line end follows its last word. -/
structure ScalarRead where
  text : List Char
  cursor : Cursor
  lineEnded : Bool := false

/-- Words and gaps of a plain scalar after `before`, which ends in an unfolded gap. -/
def plainWords (flow : Bool) (margin : Int) :
    (most : Nat) → List Char → Gap → Cursor → Option ScalarRead
  | 0, _, _, _ => none
  | most + 1, before, g, c =>
    if c.atDocumentMark || c.rest.head? == some '#' then
      some ⟨before, c, !g.breaks.isEmpty⟩
    else
      match plainWord flow c.rest with
      | none => none
      | some (word, rest) =>
        if word.isEmpty then some ⟨before, c, !g.breaks.isEmpty⟩
        else
          let text := before ++ g.fold false ++ word
          let c := c.moveTo rest
          if rest.isEmpty || !isBlankOrEnd rest then some ⟨text, c, false⟩
          else
            match c.gap margin false with
            | none => none
            | some (g, c) =>
              if !flow && (c.column : Int) < margin then some ⟨text, c, !g.breaks.isEmpty⟩
              else plainWords flow margin most text g c

/-- A plain scalar; outside of flow collections its lines are indented by at least `margin`. -/
def plain (flow : Bool) (margin : Int) (c : Cursor) : Option ScalarRead :=
  plainWords flow margin (c.rest.length + 1) [] {} c

/-! Quoted scalars -/

inductive QuoteEnd where
  | mark
  | blank
  /-- An escaped line end, which is still to be skipped. -/
  | escapedBreak

/-- The characters up to a blank, a line end or the closing mark. -/
def singleWord : List Char → Option (List Char × QuoteEnd × List Char)
  | [] => none
  | '\'' :: '\'' :: cs => (singleWord cs).map fun (w, stop, rest) => ('\'' :: w, stop, rest)
  | '\'' :: cs => some ([], .mark, cs)
  | c :: cs =>
    if isSpace c || isBreak c then some ([], .blank, c :: cs)
    else (singleWord cs).map fun (w, stop, rest) => (c :: w, stop, rest)

def namedEscape? : Char → Option Char
  | '0' => some '\x00'
  | 'a' => some '\x07'
  | 'b' => some '\x08'
  | 't' | '\t' => some '\t'
  | 'n' => some '\n'
  | 'v' => some '\x0b'
  | 'f' => some '\x0c'
  | 'r' => some '\r'
  | 'e' => some '\x1b'
  | ' ' => some ' '
  | '"' => some '"'
  | '/' => some '/'
  | '\\' => some '\\'
  | 'N' => some '\x85'
  | '_' => some '\xa0'
  | 'L' => some '\u2028'
  | 'P' => some '\u2029'
  | _ => none

/-- Hexadecimal digits that an escape is followed by. -/
def escapeDigits : Char → Nat
  | 'x' => 2
  | 'u' => 4
  | 'U' => 8
  | _ => 0

def doubleWord : (most : Nat) → List Char → Option (List Char × QuoteEnd × List Char)
  | 0, _ | _, [] => none
  | _ + 1, '"' :: cs => some ([], .mark, cs)
  | _ + 1, ['\\'] => none
  | most + 1, '\\' :: e :: cs =>
    if isBreak e then some ([], .escapedBreak, e :: cs)
    else
      match namedEscape? e with
      | some x => (doubleWord most cs).map fun (w, stop, rest) => (x :: w, stop, rest)
      | none =>
        let n := escapeDigits e
        if n = 0 ∨ cs.length < n then none
        else
          match Text.hexChar? (cs.take n) with
          | none => none
          | some x => (doubleWord most (cs.drop n)).map fun (w, stop, rest) => (x :: w, stop, rest)
  | most + 1, c :: cs =>
    if isSpace c || isBreak c then some ([], .blank, c :: cs)
    else (doubleWord most cs).map fun (w, stop, rest) => (c :: w, stop, rest)

def quotedWords (word : List Char → Option (List Char × QuoteEnd × List Char)) :
    (most : Nat) → List Char → Cursor → Option ScalarRead
  | 0, _, _ => none
  | most + 1, before, c =>
    if c.atDocumentMark then none
    else
      match word c.rest with
      | none => none
      | some (w, .mark, rest) => some ⟨before ++ w, c.moveTo rest, false⟩
      | some (w, .blank, rest) =>
        match (c.moveTo rest).gap 0 false with
        | none => none
        | some (g, c) => quotedWords word most (before ++ w ++ g.fold false) c
      | some (w, .escapedBreak, rest) =>
        match (c.moveTo rest).skipBreak.gap 0 true with
        | none => none
        | some (g, c) => quotedWords word most (before ++ w ++ g.fold true) c

/-- A quoted scalar, from behind its opening mark. -/
def quoted (double : Bool) (c : Cursor) : Option ScalarRead :=
  let n := c.rest.length + 1
  quotedWords (if double then doubleWord n else singleWord) n [] c

/-! Block scalars -/

inductive Chomping where
  | strip
  | clip
  | keep

def chompingMark? : Char → Option Chomping
  | '-' => some .strip
  | '+' => some .keep
  | _ => none

def stepMark? (c : Char) : Option Nat :=
  if '1' ≤ c && c ≤ '9' then some (c.toNat - '0'.toNat) else none

/-- Chomping and indentation step of a header, in either order. -/
def blockHeader (cs : List Char) : Chomping × Option Nat × List Char :=
  match cs with
  | [] => (.clip, none, [])
  | c :: rest =>
    match chompingMark? c, stepMark? c with
    | some ch, _ =>
      match rest.head?.bind stepMark? with
      | some n => (ch, some n, rest.drop 1)
      | none => (ch, none, rest)
    | none, some n =>
      match rest.head?.bind chompingMark? with
      | some ch => (ch, some n, rest.drop 1)
      | none => (.clip, some n, rest)
    | none, none => (.clip, none, c :: rest)

/-- Empty lines before a line of a block scalar, with the widest indentation met. No indentation
is yet known where `indent` is zero. -/
def blockBreaks (indent : Nat) :
    (most : Nat) → (widest : Nat) → List Char → Cursor → Option (Nat × List Char × Cursor)
  | 0, _, _, _ => none
  | most + 1, widest, breaks, c =>
    let room := if indent = 0 then c.rest.length else indent - c.column
    let spaces := ((c.rest.take room).takeWhile (· == ' ')).length
    let c := c.skip spaces
    let widest := max widest c.column
    match c.rest with
    | [] => some (widest, breaks, c)
    | b :: _ =>
      if b == '\t' && (indent = 0 || c.column < indent) then none
      else if isBreak b then blockBreaks indent most widest (breaks ++ [breakText b]) c.skipBreak
      else some (widest, breaks, c)

structure BlockText where
  text : List Char := []
  /-- The end of the last line. -/
  lastBreak : List Char := []
  /-- The last line started with a blank. -/
  blankLine : Bool := false
  trailing : List Char := []

/-- The lines of a block scalar of known indentation. -/
def blockLines (literal : Bool) (indent : Nat) :
    (most : Nat) → BlockText → Cursor → Option (BlockText × Cursor)
  | 0, _, _ => none
  | most + 1, b, c =>
    if c.column = indent ∧ !c.rest.isEmpty then
      let blank := c.rest.head?.any isSpace
      let folded := !literal && b.lastBreak == ['\n'] && !b.blankLine && !blank
      let joint :=
        if folded then (if b.trailing.isEmpty then [' '] else b.trailing)
        else b.lastBreak ++ b.trailing
      let content := c.rest.takeWhile fun d => !isBreak d
      let c := c.skip content.length
      let lastBreak := (c.rest.head?.map breakText).toList
      match blockBreaks indent (c.rest.length + 1) 0 [] c.skipBreak with
      | none => none
      | some (_, trailing, c) =>
        blockLines literal indent most
          { text := b.text ++ joint ++ content, lastBreak, blankLine := blank, trailing } c
    else some (b, c)

/-- A block scalar, from behind its mark, in a collection of indentation `parent`. -/
def block (literal : Bool) (parent : Int) (c : Cursor) : Option ScalarRead :=
  let (chomping, step, rest) := blockHeader c.rest
  let c := c.moveTo rest
  let c := c.skip (c.rest.takeWhile isSpace).length
  let c := if c.rest.head? == some '#' then
      c.skip (c.rest.takeWhile fun d => !isBreak d).length
    else c
  if !c.rest.isEmpty && !c.rest.head?.any isBreak then none
  else
    let c := c.skipBreak
    let known := match step with
      | some n => if parent ≥ 0 then parent.toNat + n else n
      | none => 0
    match blockBreaks known (c.rest.length + 1) 0 [] c with
    | none => none
    | some (widest, trailing, c) =>
      let indent := if known = 0 then max (max widest (parent + 1).toNat) 1 else known
      match blockLines literal indent (c.rest.length + 1) { trailing } c with
      | none => none
      | some (b, c) =>
        let tail := match chomping with
          | .strip => []
          | .clip => b.lastBreak
          | .keep => b.lastBreak ++ b.trailing
        some ⟨b.text ++ tail, c, true⟩

end WorkloadLogin.Yaml
