import WorkloadLogin.Calendar.Timestamp
import WorkloadLogin.Text.Blank

/-! # Signing times

A signing time is written either as `2006-01-02T15:04:05Z`, with or without a fraction, or in the
layout of the shell's clock, `Mon Jan 2 15:04:05 MST 2006`, whose zone word is read as UTC. The
canonical form that a signature covers is the first, to the second. -/
namespace WorkloadLogin.SigningTime
open Text

/-- A reader of the head of a text. -/
abbrev Scan (α : Type) := List Char → Option (α × List Char)

def char (c : Char) : Scan Unit
  | d :: cs => if c = d then some ((), cs) else none
  | [] => none

/-- A numeral of exactly `n` digits. -/
def fixedDigits (n : Nat) : Scan Nat := fun cs =>
  let ds := cs.take n
  if ds.length = n ∧ ds.all isDigit then some (foldDigits ds, cs.drop n) else none

/-- Four digits, with or without a sign. -/
def year : Scan Int
  | '+' :: cs => (fixedDigits 4 cs).map fun (n, cs) => ((n : Int), cs)
  | '-' :: cs => (fixedDigits 4 cs).map fun (n, cs) => (-(n : Int), cs)
  | cs => (fixedDigits 4 cs).map fun (n, cs) => ((n : Int), cs)

def clock : Scan ClockTime := fun cs => do
  let (hour, cs) ← fixedDigits 2 cs
  let (_, cs) ← char ':' cs
  let (minute, cs) ← fixedDigits 2 cs
  let (_, cs) ← char ':' cs
  let (second, cs) ← fixedDigits 2 cs
  let c ← ClockTime.ofParts? hour minute second
  return (c, cs)

/-- A point and digits, of which the first nine count; nothing where no such thing stands. -/
def fraction (cs : List Char) : Nanos × List Char :=
  match cs with
  | '.' :: rest =>
    let ds := rest.takeWhile isDigit
    if ds.isEmpty then (.zero, cs)
    else
      let nine := (ds ++ List.replicate 9 '0').take 9
      (.ofNat (foldDigits nine), rest.dropWhile isDigit)
  | cs => (.zero, cs)

def utc (d : Date) (c : ClockTime) (nanos : Nanos) : Instant := ⟨utcSeconds d c, nanos⟩

def parseIso (cs : List Char) : Option Instant := do
  let (y, cs) ← year cs
  let (_, cs) ← char '-' cs
  let (m, cs) ← fixedDigits 2 cs
  let (_, cs) ← char '-' cs
  let (d, cs) ← fixedDigits 2 cs
  let (_, cs) ← char 'T' cs
  let (c, cs) ← clock cs
  let (nanos, cs) := fraction cs
  let (_, cs) ← char 'Z' cs
  let date ← Date.ofParts? y m d
  if cs.isEmpty then some (utc date c nanos) else none

def weekdays : List String := ["Mon", "Tue", "Wed", "Thu", "Fri", "Sat", "Sun"]

def months : List String :=
  ["Jan", "Feb", "Mar", "Apr", "May", "Jun", "Jul", "Aug", "Sep", "Oct", "Nov", "Dec"]

def month? (cs : List Char) : Option Nat :=
  (months.findIdx? fun m => m.toList == cs).map (· + 1)

/-- One or two digits. -/
def day? (cs : List Char) : Option Nat := if cs.length ≤ 2 then natOfDigits? cs else none

/-- The value of a text that the reader takes as a whole. -/
def whole {α : Type} (scan : Scan α) (cs : List Char) : Option α :=
  match scan cs with
  | some (a, []) => some a
  | _ => none

def isUpper (c : Char) : Bool := 'A' ≤ c && c ≤ 'Z'

def isZone (cs : List Char) : Bool := 3 ≤ cs.length && cs.length ≤ 5 && cs.all isUpper

def parseShell (cs : List Char) : Option Instant :=
  match blankFields cs with
  | [weekday, month, day, time, zone, yr] =>
    if weekdays.any (fun w => w.toList == weekday) && isZone zone then do
      let m ← month? month
      let d ← day? day
      let c ← whole clock time
      let y ← whole year yr
      let date ← Date.ofParts? y m d
      return utc date c .zero
    else none
  | _ => none

/-- The instant of the first layout that takes the text. -/
def parse? (raw : String) : Option Instant := (parseIso raw.toList).or (parseShell raw.toList)

/-- Local date and time of day in the first layout, to the second. -/
def localText (t : Timestamp) : String :=
  let d := utcDate t.localSeconds
  let c := utcClock t.localSeconds
  String.ofList <|
    Timestamp.yearText d.year ++ '-' :: digitsPadded 2 d.month ++ '-' :: digitsPadded 2 d.day ++
      'T' :: digitsPadded 2 c.hour ++ ':' :: digitsPadded 2 c.minute ++
      ':' :: digitsPadded 2 c.second ++ ['Z']

/-- The canonical text of a time that carries any offset: UTC, whole seconds. -/
def format (t : Timestamp) : String := localText t.toUtc

/-- The canonical text of an instant. -/
def canonical (t : Instant) : String := format (.utc t)

end WorkloadLogin.SigningTime
