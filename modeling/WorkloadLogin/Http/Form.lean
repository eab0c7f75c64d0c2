import WorkloadLogin.Http.Percent

/-! # Forms

A form is sent as its fields, each a name and a value. Letters, digits and four marks stand for
themselves, a blank is a plus sign, every other octet is escaped. -/
namespace WorkloadLogin.Http.Form

def isPlain (c : Char) : Bool :=
  ('a' ≤ c && c ≤ 'z') || ('A' ≤ c && c ≤ 'Z') || ('0' ≤ c && c ≤ '9') ||
    ['*', '-', '.', '_'].contains c

def encodeChar (c : Char) : List Char :=
  if c == ' ' then ['+'] else if isPlain c then [c] else Percent.escapeChar c

def encodeText (s : String) : String := String.ofList (s.toList.flatMap encodeChar)

def encode (fields : List (String × String)) : String :=
  String.intercalate "&" (fields.map fun f => encodeText f.1 ++ "=" ++ encodeText f.2)

end WorkloadLogin.Http.Form
