import WorkloadLogin.Text.Blank
import WorkloadLogin.Text.Hexadecimal

/-! # Tables of characters

A table is written as entries with blanks between them. An entry is the number of a character, or
those of the first and the last one of a run with a hyphen between them, in hexadecimal; after a
colon follows what the table notes about it. -/
namespace WorkloadLogin.Text

structure Run where
  first : Nat
  last : Nat
  note : List Char

namespace Run

def holds (r : Run) (c : Char) : Bool := r.first ≤ c.toNat && c.toNat ≤ r.last

def ofText? (entry : List Char) : Option Run := do
  let span := entry.takeWhile (· != ':')
  let note := entry.drop (span.length + 1)
  let first ← hexNumber? (span.takeWhile (· != '-'))
  match span.dropWhile (· != '-') with
  | '-' :: last => return { first, last := ← hexNumber? last, note }
  | _ => return { first, last := first, note }

end Run

def runs (table : String) : List Run := (blankFields table.toList).filterMap Run.ofText?

/-- What a table notes about a character, if it has it at all. -/
def noteOf? (table : List Run) (c : Char) : Option (List Char) :=
  (table.find? fun r => r.holds c).map Run.note

end WorkloadLogin.Text
