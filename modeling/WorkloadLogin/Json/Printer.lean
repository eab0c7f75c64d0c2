import WorkloadLogin.Json
import WorkloadLogin.Text.Decimal

/-! # Writing JSON

Values are written without blanks; in strings the two marks and the controls are escaped. -/
namespace WorkloadLogin.Json
open Text

def escapeChar (c : Char) : List Char :=
  match c with
  | '"' => ['\\', '"']
  | '\\' => ['\\', '\\']
  | '\n' => ['\\', 'n']
  | '\r' => ['\\', 'r']
  | '\t' => ['\\', 't']
  | c =>
    if c.toNat < 32 then
      let ds := Nat.toDigits 16 c.toNat
      ['\\', 'u'] ++ List.replicate (4 - ds.length) '0' ++ ds
    else [c]

def renderString (s : String) : String :=
  String.ofList ('"' :: s.toList.flatMap escapeChar ++ ['"'])

mutual
def render : Json → String
  | null => "null"
  | bool b => if b then "true" else "false"
  | integer n => signedDecimal n
  | decimal spelling => spelling
  | string s => renderString s
  | unpaired spelling => "\"" ++ spelling ++ "\""
  | array items => "[" ++ renderItems items ++ "]"
  | object members | illNamed members => "\x7b" ++ renderMembers members ++ "\x7d"

def renderItems : List Json → String
  | [] => ""
  | [v] => render v
  | v :: vs => render v ++ "," ++ renderItems vs

def renderMembers : List (String × Json) → String
  | [] => ""
  | [(n, v)] => renderString n ++ ":" ++ render v
  | (n, v) :: ms => renderString n ++ ":" ++ render v ++ "," ++ renderMembers ms
end

end WorkloadLogin.Json
