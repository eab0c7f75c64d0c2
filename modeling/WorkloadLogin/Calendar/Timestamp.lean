import WorkloadLogin.Calendar.Date
import WorkloadLogin.Nanos
import WorkloadLogin.Text.Decimal

/-! # Instants and timestamps

An instant is a point in time; a timestamp also carries the offset from UTC in which its local
time is shown. Two timestamps are compared by their instants. -/
namespace WorkloadLogin
open Text

/-- Seconds since 1970-01-01T00:00:00Z, rounded down, and the rest in nanoseconds. -/
structure Instant where
  seconds : Int
  nanos : Nanos := .zero
  deriving DecidableEq, Repr

namespace Instant

def toNanos (t : Instant) : Int := t.seconds * 1000000000 + t.nanos.val

def ofNanos (n : Int) : Instant :=
  ⟨n / 1000000000, .ofNat (n % 1000000000).toNat⟩

/-- The instant at the start of its second. -/
def floor (t : Instant) : Instant := { t with nanos := .zero }

end Instant

/-- A time of day to the second. -/
structure ClockTime where
  hour : Nat
  minute : Nat
  second : Nat
  deriving DecidableEq, Repr

namespace ClockTime

def toSeconds (c : ClockTime) : Nat := c.hour * 3600 + c.minute * 60 + c.second

def ofSeconds (n : Nat) : ClockTime := ⟨n / 3600, n / 60 % 60, n % 60⟩

def ofParts? (hour minute second : Nat) : Option ClockTime :=
  if hour < 24 ∧ minute < 60 ∧ second < 60 then some ⟨hour, minute, second⟩ else none

end ClockTime

/-- Seconds since 1970-01-01T00:00:00Z of a date and time of day in UTC. -/
def utcSeconds (d : Date) (c : ClockTime) : Int := d.toDays * 86400 + c.toSeconds

def utcDate (seconds : Int) : Date := .ofDays (seconds / 86400)

def utcClock (seconds : Int) : ClockTime := .ofSeconds (seconds % 86400).toNat

structure Timestamp where
  instant : Instant
  /-- Seconds east of UTC. -/
  offset : Int := 0
  deriving DecidableEq, Repr

namespace Timestamp

/-- An instant as it is shown in UTC. -/
def utc (t : Instant) : Timestamp := { instant := t }

/-- The same instant, shown in UTC. -/
def toUtc (t : Timestamp) : Timestamp := .utc t.instant

def localSeconds (t : Timestamp) : Int := t.instant.seconds + t.offset

/-- Whether the local date is one that can be shown. -/
def inRange (t : Timestamp) : Bool := (utcDate t.localSeconds).inRange

/-- The timestamp moved by a signed number of nanoseconds, if it stays in range. -/
def shift? (t : Timestamp) (nanos : Int) : Option Timestamp :=
  let moved : Timestamp := { t with instant := .ofNanos (t.instant.toNanos + nanos) }
  if moved.inRange then some moved else none

/-- A year: at least four digits, a sign for a negative one. -/
def yearText (year : Int) : List Char :=
  (if year < 0 then ['-'] else []) ++ digitsPadded 4 year.natAbs

/-- The fraction of a second without the zeros at its end, one digit at least. -/
def fractionText (nanos : Nat) : List Char :=
  match ((digitsPadded 9 nanos).reverse.dropWhile (· == '0')).reverse with
  | [] => ['0']
  | ds => ds

def offsetText (offset : Int) : List Char :=
  let c := ClockTime.ofSeconds offset.natAbs
  (if offset < 0 then '-' else '+') :: digitsPadded 2 c.hour ++ ':' :: digitsPadded 2 c.minute ++
    ':' :: digitsPadded 2 c.second

/-- Local date and time with the offset; the hour is not padded. -/
def display (t : Timestamp) : String :=
  let d := utcDate t.localSeconds
  let c := utcClock t.localSeconds
  String.ofList <|
    yearText d.year ++ '-' :: digitsPadded 2 d.month ++ '-' :: digitsPadded 2 d.day ++
      ' ' :: digits c.hour ++ ':' :: digitsPadded 2 c.minute ++ ':' :: digitsPadded 2 c.second ++
      '.' :: fractionText t.instant.nanos.val ++ ' ' :: offsetText t.offset

end Timestamp
end WorkloadLogin
