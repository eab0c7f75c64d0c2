import WorkloadLogin.Text.Decimal

/-! # Numerals with fraction and exponent

Which texts write a finite binary floating-point number, and which one that is too large. -/
namespace WorkloadLogin.Text

/-- A decimal numeral: digits on both sides of the point and a power of ten. -/
structure Numeral where
  whole : List Char
  fraction : List Char
  exponent : Int

namespace Numeral

/-- A numeral with an optional sign; a digit must stand on one side of the point. -/
def parse? (cs : List Char) : Option Numeral :=
  let cs := match cs with
    | '+' :: cs => cs
    | '-' :: cs => cs
    | cs => cs
  let whole := cs.takeWhile isDigit
  let rest := cs.dropWhile isDigit
  let (fraction, rest) := match rest with
    | '.' :: rest => (rest.takeWhile isDigit, rest.dropWhile isDigit)
    | rest => ([], rest)
  if whole.isEmpty && fraction.isEmpty then none
  else
    match rest with
    | [] => some ⟨whole, fraction, 0⟩
    | e :: rest =>
      if e == 'e' || e == 'E' then
        match rest with
        | '+' :: ds => (natOfDigits? ds).map fun n => ⟨whole, fraction, n⟩
        | '-' :: ds => (natOfDigits? ds).map fun n => ⟨whole, fraction, -n⟩
        | ds => (natOfDigits? ds).map fun n => ⟨whole, fraction, n⟩
      else none

/-- The least number that rounds to infinity. -/
def overflowBound : Nat := (1 <<< 1024) - (1 <<< 970)

def isFinite (n : Numeral) : Bool :=
  let digits := n.whole ++ n.fraction
  let value := foldDigits digits
  let power : Int := n.exponent - n.fraction.length
  if value = 0 then true
  else if power + digits.length < 300 then true
  else if power > 310 then false
  else if power ≥ 0 then value * Nat.pow 10 power.toNat < overflowBound
  else value < overflowBound * Nat.pow 10 (-power).toNat

end Numeral
end WorkloadLogin.Text
