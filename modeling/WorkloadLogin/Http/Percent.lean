import WorkloadLogin.Encoding.Bytes

/-! # Percent-encoding

A character that has a meaning of its own where it would stand, or that is not printable ASCII, is
written by its UTF-8 octets, each as a percent sign and two digits. Which characters those are
depends on the part of the address. -/
namespace WorkloadLogin.Http.Percent

def upperHexDigit (n : Nat) : Char := (Nat.digitChar n).toUpper

def escapeOctet (b : UInt8) : List Char :=
  ['%', upperHexDigit (b.toNat / 16), upperHexDigit (b.toNat % 16)]

def escapeChar (c : Char) : List Char := (String.utf8EncodeChar c).flatMap escapeOctet

/-- The text with the characters of `reserved` escaped. -/
def encode (reserved : Char → Bool) (cs : List Char) : List Char :=
  cs.flatMap fun c => if reserved c then escapeChar c else [c]

def hexValue? (b : UInt8) : Option Nat :=
  let n := b.toNat
  if 48 ≤ n ∧ n ≤ 57 then some (n - 48)
  else if 65 ≤ n ∧ n ≤ 70 then some (n - 55)
  else if 97 ≤ n ∧ n ≤ 102 then some (n - 87)
  else none

/-- The octets that escapes stand for; a percent sign that begins no escape stands for itself. -/
def decode : Bytes → Bytes
  | [] => []
  | [b] => [b]
  | [b, c] => [b, c]
  | b :: c :: d :: bs =>
    if b = 37 then
      match hexValue? c, hexValue? d with
      | some hi, some lo => UInt8.ofNat (hi * 16 + lo) :: decode bs
      | _, _ => b :: decode (c :: d :: bs)
    else b :: decode (c :: d :: bs)

/-! ## What is escaped where -/

def isUnprintable (c : Char) : Bool := c.toNat < 32 || 126 < c.toNat

def inFragment (c : Char) : Bool := isUnprintable c || [' ', '"', '<', '>', '\x60'].contains c

def inPath (c : Char) : Bool := inFragment c || ['#', '?', '\x7b', '\x7d'].contains c

/-- A path segment that is given as a whole keeps nothing that would end it. -/
def inSegment (c : Char) : Bool := inPath c || ['/', '%', '\\'].contains c

def inUserInfo (c : Char) : Bool :=
  inPath c || ['/', ':', ';', '=', '@', '[', '\\', ']', '^', '|'].contains c

def inQuery (c : Char) : Bool := isUnprintable c || [' ', '"', '#', '<', '>', '\x27'].contains c

end WorkloadLogin.Http.Percent
