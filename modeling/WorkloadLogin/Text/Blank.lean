/-! # Blank characters

Blank is the Unicode property White_Space. Texts are cut at blanks and trimmed of them the same
way everywhere: around an address, between the fields of a time, inside armoured data. -/
namespace WorkloadLogin.Text

def isBlank (c : Char) : Bool :=
  let n := c.toNat
  (9 ≤ n && n ≤ 13) || n == 32 || n == 0x85 || n == 0xA0 || n == 0x1680 ||
    (0x2000 ≤ n && n ≤ 0x200A) || n == 0x2028 || n == 0x2029 || n == 0x202F || n == 0x205F ||
    n == 0x3000

/-- The text without the characters of `p` at its two ends. -/
def trimWhere (p : Char → Bool) (cs : List Char) : List Char :=
  ((cs.dropWhile p).reverse.dropWhile p).reverse

def trimBlank (cs : List Char) : List Char := trimWhere isBlank cs

/-- The maximal runs of characters outside `p`, with the run being read in front. -/
def fieldsFrom (p : Char → Bool) (run : List Char) : List Char → List (List Char)
  | [] => if run.isEmpty then [] else [run.reverse]
  | c :: cs =>
    if p c then
      if run.isEmpty then fieldsFrom p [] cs else run.reverse :: fieldsFrom p [] cs
    else fieldsFrom p (c :: run) cs

/-- The maximal blank-free runs of a text, in order. -/
def blankFields (cs : List Char) : List (List Char) := fieldsFrom isBlank [] cs

/-- Whether a text holds nothing but blanks. -/
def allBlank (s : String) : Bool := s.toList.all isBlank

end WorkloadLogin.Text
