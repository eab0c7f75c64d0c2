import WorkloadLogin.Http.DomainName.Mapping
import WorkloadLogin.Http.DomainName.Punycode
import WorkloadLogin.Text.Composition
import WorkloadLogin.Text.Direction
import WorkloadLogin.Text.Joining

/-! # Labels of domain names

A label is checked in the characters that it shows. The two joiners have their places, a mark does
not come first, and labels do not mix directions once one of them runs to the left. -/
namespace WorkloadLogin.Http.DomainName
open Text

/-- The mark in front of a label that is written in Punycode. -/
def encodedMark : List Char := "xn--".toList

def encodeLabel (label : List Char) : List Char :=
  if label.all isAscii then label else encodedMark ++ punycode label

/-- Controls, blanks and the marks of addresses, which no name holds. -/
def isForbidden (c : Char) : Bool :=
  c.toNat ≤ 32 || c.toNat = 127 || "%#/:<>?@[\\]^|".toList.contains c

/-- A character that stands for itself in names. -/
def isKept (c : Char) : Bool := mapping? c == some [c]

/-- The longest encoded label that is read. -/
def mostEncoded : Nat := 2000

/-- The longest label that is encoded. -/
def mostDecoded : Nat := 1000

/-- The characters that a label shows; none if it claims to be encoded and is not. -/
def shown? (label : List Char) : Option (List Char) :=
  if encodedMark.isPrefixOf label then
    let code := label.drop encodedMark.length
    if code.length > mostEncoded then none
    else
      match readPunycode? code with
      | none => none
      | some decoded =>
        if !decoded.all isAscii && decoded.all isKept && compose decoded == decoded &&
            !encodedMark.isPrefixOf decoded && encodeLabel decoded == label then
          some decoded
        else none
  else some label

/-- The class of the marks that take the vowel from a consonant. -/
def vowelKiller : Nat := 9

/-- Whether the nearest character that joining does not pass through joins. -/
def joinsAcross (joins : Char → Bool) (cs : List Char) : Bool :=
  (cs.dropWhile isTransparent).head?.any joins

/-- Whether every joiner of a label stands behind a vowel killer or, if it is to part letters, where
they would join. `before` is what stands before, latest first. -/
def joinersFit (before : List Char) : List Char → Bool
  | [] => true
  | c :: cs =>
    let fits :=
      if c = '\u200c' ∨ c = '\u200d' then
        match before with
        | [] => false
        | b :: _ =>
          combiningClass b == vowelKiller ||
            (c == '\u200c' && joinsAcross joinsNext before && joinsAcross joinsPrevious cs)
      else true
    fits && joinersFit (c :: before) cs

/-- Whether a label that shows these characters is well formed on its own. -/
def isSound (shown : List Char) : Bool :=
  !shown.any isForbidden && !shown.head?.any isMark && joinersFit [] shown &&
    (shown.all isAscii || shown.length ≤ mostDecoded)

/-- A direction that makes the directions of all labels count. -/
def isAgainst (d : Direction) : Bool :=
  d == .leftward || d == .arabicDigit

/-- Whether the directions in a label go together: those of a label that starts rightward, or of one
that starts leftward, which has one kind of digits at most. -/
def directionsFit (label : List Char) : Bool :=
  let ds := label.map direction
  let last? := ds.reverse.find? (· != .combining)
  match ds.head? with
  | none => true
  | some .rightward =>
    ds.all (fun d => [.rightward, .europeanDigit, .neutral, .combining].contains d) &&
      last?.any fun d => d == .rightward || d == .europeanDigit
  | some .leftward =>
    ds.all (fun d => d != .rightward && d != .control) &&
      !(ds.contains .europeanDigit && ds.contains .arabicDigit) &&
      last?.any fun d => d == .leftward || d == .europeanDigit || d == .arabicDigit
  | some _ => false

end WorkloadLogin.Http.DomainName
