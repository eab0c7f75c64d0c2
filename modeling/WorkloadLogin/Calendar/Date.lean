/-! # Calendar dates

Dates of the proleptic Gregorian calendar, counted in days from 1970-01-01. The count runs in
cycles of 400 years that start on the first of March, so that a leap day ends its year. -/
namespace WorkloadLogin

structure Date where
  year : Int
  month : Nat
  day : Nat
  deriving DecidableEq, Repr

namespace Date

def isLeap (year : Int) : Bool := year % 4 == 0 && (year % 100 != 0 || year % 400 == 0)

def daysInMonth (year : Int) (month : Nat) : Nat :=
  if month = 2 then (if isLeap year then 29 else 28)
  else if month = 4 ∨ month = 6 ∨ month = 9 ∨ month = 11 then 30
  else 31

/-- Days from the first of March of year zero to 1970-01-01. -/
def epochDay : Int := 719468

def daysPerCycle : Int := 146097

/-- Day of the year of the first of a month, months and days counted from March. -/
def daysBeforeMonth (m : Nat) : Nat := (153 * m + 2) / 5

def toDays (d : Date) : Int :=
  let marchYear := if d.month ≤ 2 then d.year - 1 else d.year
  let cycle := marchYear / 400
  let y := (marchYear % 400).toNat
  let dayOfYear := daysBeforeMonth ((d.month + 9) % 12) + (d.day - 1)
  cycle * daysPerCycle + ((y * 365 + y / 4 - y / 100 + dayOfYear : Nat) : Int) - epochDay

def ofDays (n : Int) : Date :=
  let cycle := (n + epochDay) / daysPerCycle
  let dayOfCycle := ((n + epochDay) % daysPerCycle).toNat
  let y := (dayOfCycle - dayOfCycle / 1460 + dayOfCycle / 36524 - dayOfCycle / 146096) / 365
  let dayOfYear := dayOfCycle - (365 * y + y / 4 - y / 100)
  let m := (5 * dayOfYear + 2) / 153
  let month := if m < 10 then m + 3 else m - 9
  { year := cycle * 400 + y + (if month ≤ 2 then 1 else 0)
    month := month
    day := dayOfYear - daysBeforeMonth m + 1 }

/-- Years that a text can show. -/
def inRange (d : Date) : Bool := -9999 ≤ d.year && d.year ≤ 9999

/-- The date of these numbers, if the month has that day. -/
def ofParts? (year : Int) (month day : Nat) : Option Date :=
  if 1 ≤ month ∧ month ≤ 12 ∧ 1 ≤ day ∧ day ≤ daysInMonth year month then
    some ⟨year, month, day⟩
  else none

end Date
end WorkloadLogin
