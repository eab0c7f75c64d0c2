/-! # Octet strings

Binary data is a list of octets; a text stands for its UTF-8 octets. -/
namespace WorkloadLogin

abbrev Bytes := List UInt8

namespace Bytes

def utf8 (cs : List Char) : Bytes := cs.flatMap String.utf8EncodeChar

def ofText (s : String) : Bytes := utf8 s.toList

/-- The text whose UTF-8 octets these are. -/
def toText? (bs : Bytes) : Option String := String.fromUTF8? ⟨bs.toArray⟩

/-- The number written in base 256, most significant octet first. -/
def toNat (bs : Bytes) : Nat := bs.foldl (fun n b => n * 256 + b.toNat) 0

/-- The lowest `length` octets of a number, most significant first. -/
def ofNat : (length : Nat) → Nat → Bytes
  | 0, _ => []
  | length + 1, n => ofNat length (n / 256) ++ [UInt8.ofNat n]

def hexDigit (n : Nat) : Char := Nat.digitChar n

/-- Two lower-case hexadecimal digits for each octet. -/
def hex (bs : Bytes) : String :=
  String.ofList <| bs.flatMap fun b => [hexDigit (b.toNat / 16), hexDigit (b.toNat % 16)]

end Bytes
end WorkloadLogin
