import WorkloadLogin.Http.DomainName.Label

/-! # Domain names

Names are compared in ASCII: characters that look alike are made the same, and a label with other
than ASCII characters is written as `xn--` and its Punycode. -/
namespace WorkloadLogin.Http.DomainName
open Text

/-- The name in the characters that stand for its own; none if one of them is not allowed. -/
def mapName? (name : List Char) : Option (List Char) :=
  (name.mapM mapping?).map fun parts => compose parts.flatten

/-- A character of ASCII that stands for itself wherever it is. -/
def isPlain (c : Char) : Bool := isAscii c && !isForbidden c && !('A' ≤ c && c ≤ 'Z')

/-- Plain characters throughout, and no label that claims to be encoded. -/
def isWrittenOut (name : List Char) : Bool :=
  name.all isPlain && (name.splitOn '.').all fun l => !encodedMark.isPrefixOf l

/-- The name in ASCII, which a name that is written out already is. -/
def toAscii? (name : List Char) : Option (List Char) := do
  if isWrittenOut name then return name
  let mapped ← mapName? name
  let shown ← (mapped.splitOn '.').mapM shown?
  let against := shown.any fun l => l.any fun c => isAgainst (direction c)
  if shown.all isSound && (!against || shown.all directionsFit) then
    return List.intercalate ['.'] (shown.map encodeLabel)
  else none

end WorkloadLogin.Http.DomainName
