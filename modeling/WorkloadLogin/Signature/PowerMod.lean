/-! # Powers

Exponents are used up a bit at a time. -/
namespace WorkloadLogin

/-- The product of `n` copies of an element, by repeated squaring. -/
def repeated {α : Type} (one : α) (op : α → α → α) (n : Nat) (x : α) : α :=
  if h : n = 0 then one
  else
    let half := repeated one op (n / 2) (op x x)
    if n % 2 = 1 then op x half else half
termination_by n
decreasing_by omega

/-- `base ^ exponent % modulus`. -/
def powerMod (base exponent modulus : Nat) : Nat :=
  repeated (1 % modulus) (fun x y => x * y % modulus) exponent base

/-- The inverse modulo a prime. -/
def inverseMod (x prime : Nat) : Nat := powerMod x (prime - 2) prime

def subMod (x y modulus : Nat) : Nat := (x + (modulus - y % modulus)) % modulus

end WorkloadLogin
