import WorkloadLogin.Calendar.Timestamp
import WorkloadLogin.Encoding.Der

/-! # Times in certificates

A validity bound is a UTC time with a two-digit year, which lies between 1950 and 2049, or a
generalized time with a four-digit one. Fractions of a second do not matter to a bound. -/
namespace WorkloadLogin.X509

/-- Two decimal digits. -/
def twoDigits (a b : UInt8) : Option Nat :=
  if 48 ≤ a ∧ a ≤ 57 ∧ 48 ≤ b ∧ b ≤ 57 then some ((a.toNat - 48) * 10 + (b.toNat - 48)) else none

/-- Two digits at the head, or zero where nothing of that length is left. -/
def optionalPair : Bytes → Option (Nat × Bytes)
  | a :: b :: rest => (twoDigits a b).map fun n => (n, rest)
  | rest => some (0, rest)

/-- The seconds east of UTC that a zone designator stands for. A sign is that of the hours: where
they are zero it is lost. -/
def zone? : Bytes → Option Int
  | [90] => some 0
  | [sign, a, b, c, d] => do
    let h ← twoDigits a b
    let m ← twoDigits c d
    if h > 25 ∨ m > 59 ∨ (sign ≠ 43 ∧ sign ≠ 45) then none
    if sign = 45 ∧ h ≠ 0 then some (-(h * 3600 + m * 60 : Nat))
    else some (h * 3600 + m * 60 : Nat)
  | _ => none

def secondsOf? (year month day hour minute second : Nat) (zone : Int) : Option Int := do
  let d ← Date.ofParts? year month day
  let c ← ClockTime.ofParts? hour minute second
  return utcSeconds d c - zone

def utcTime? (bs : Bytes) : Option Int :=
  match bs with
  | y1 :: y2 :: m1 :: m2 :: d1 :: d2 :: h1 :: h2 :: n1 :: n2 :: rest => do
    let year ← twoDigits y1 y2
    let month ← twoDigits m1 m2
    let day ← twoDigits d1 d2
    let hour ← twoDigits h1 h2
    let minute ← twoDigits n1 n2
    let (second, rest) ← optionalPair rest
    let zone ← zone? rest
    secondsOf? (if year ≥ 50 then 1900 + year else 2000 + year) month day hour minute second zone
  | _ => none

/-- What follows a fraction of at most three digits. -/
def skipFraction (bs : Bytes) : Option Bytes :=
  match bs with
  | 46 :: rest =>
    let ds := rest.takeWhile fun b => 48 ≤ b && b ≤ 57
    if ds.length ≤ 3 then some (rest.drop ds.length) else none
  | bs => some bs

def generalizedTime? (bs : Bytes) : Option Int :=
  match bs with
  | y1 :: y2 :: y3 :: y4 :: m1 :: m2 :: d1 :: d2 :: h1 :: h2 :: n1 :: n2 :: rest => do
    let century ← twoDigits y1 y2
    let year ← twoDigits y3 y4
    let month ← twoDigits m1 m2
    let day ← twoDigits d1 d2
    let hour ← twoDigits h1 h2
    let minute ← twoDigits n1 n2
    let (second, rest) ← optionalPair rest
    let rest ← skipFraction rest
    if rest = [90] then secondsOf? (century * 100 + year) month day hour minute second 0 else none
  | _ => none

/-- The Unix second of a time element at the head. -/
def readTime (bs : Bytes) : Option (Int × Bytes) := do
  let (e, rest) ← Der.read bs
  if !e.contents.all fun b => 32 ≤ b && b ≤ 127 then none
  let seconds ←
    if e.tag.number = Der.utcTimeTag then utcTime? e.contents
    else if e.tag.number = Der.generalizedTimeTag then generalizedTime? e.contents
    else none
  return (seconds, rest)

end WorkloadLogin.X509
