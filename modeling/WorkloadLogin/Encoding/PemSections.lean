import WorkloadLogin.Encoding.Base64

/-! # Sections of PEM texts, line by line

A section runs from a line that opens it to a line that starts with its end mark; what stands
between sections does not count. The data of a section that another one interrupts goes to that
one. Sections of kinds that hold no known object are passed over. -/
namespace WorkloadLogin.PemSections
open Text

structure Section where
  label : List Char
  data : List Char := []

def certificateLabel : String := "CERTIFICATE"

def knownLabels : List String :=
  [certificateLabel, "PUBLIC KEY", "RSA PRIVATE KEY", "PRIVATE KEY", "EC PRIVATE KEY", "X509 CRL",
    "CERTIFICATE REQUEST", "ECHCONFIG"]

/-- The label of an opening line, which ends in five dashes. -/
def openingLabel? (line : List Char) : Option (List Char) :=
  let marks := (line.reverse.takeWhile fun c => c == '-' || c == ' ').reverse.dropWhile (· == ' ')
  if line.length < 11 + marks.length || marks.count '-' != 5 then none
  else some ((line.take (line.length - marks.length)).drop 11)

def Section.endMark (s : Section) : List Char := "-----END ".toList ++ s.label ++ "-----".toList

def isBlankInData (c : Char) : Bool := c == ' ' || ('\t' ≤ c && c ≤ '\r')

def Section.decode? (s : Section) : Option Bytes :=
  Base64.decodeLoose .standard (Bytes.utf8 (s.data.filter fun c => !isBlankInData c))

/-- The certificates of the lines that follow, with the section being read; none if a section is
not closed or its data does not decode. -/
def certificatesFrom : Option Section → List (List Char) → Option (List Bytes)
  | none, [] => some []
  | some _, [] => none
  | current, line :: rest =>
    if "-----BEGIN ".toList.isPrefixOf line then do
      let label ← openingLabel? line
      certificatesFrom (some ⟨label, (current.map Section.data).getD []⟩) rest
    else
      match current with
      | none => certificatesFrom none rest
      | some s =>
        if s.endMark.isPrefixOf line then
          let label := String.ofList s.label
          if knownLabels.contains label then
            match s.decode? with
            | none => none
            | some der =>
              (certificatesFrom none rest).map fun ders =>
                if label = certificateLabel then der :: ders else ders
          else certificatesFrom none rest
        else certificatesFrom (some { s with data := s.data ++ line }) rest

def lines (cs : List Char) : List (List Char) :=
  (cs.map fun c => if c == '\r' then '\n' else c).splitOn '\n'

/-- The certificates of a text in order. -/
def certificates? (text : String) : Option (List Bytes) := certificatesFrom none (lines text.toList)

end WorkloadLogin.PemSections
