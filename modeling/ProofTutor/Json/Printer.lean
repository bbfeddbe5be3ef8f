import ProofTutor.Json.Basic

/-!
JSON text: `compact` writes no blanks, `pretty` one item a line with two spaces for each level.
Only quotes, backslashes and control characters are escaped.
-/

namespace ProofTutor.Json

def hexDigit (n : Nat) : Char :=
  if n < 10 then Char.ofNat (48 + n) else Char.ofNat (87 + n)

def escapeChar (c : Char) : List Char :=
  match c with
  | '"' => ['\\', '"']
  | '\\' => ['\\', '\\']
  | '\n' => ['\\', 'n']
  | '\r' => ['\\', 'r']
  | '\t' => ['\\', 't']
  | '\x08' => ['\\', 'b']
  | '\x0c' => ['\\', 'f']
  | c =>
    if c.toNat < 0x20 then ['\\', 'u', '0', '0', hexDigit (c.toNat / 16), hexDigit (c.toNat % 16)]
    else [c]

def quoted (s : String) : String :=
  "\"" ++ .ofList (s.toList.flatMap escapeChar) ++ "\""

mutual

def compact : Json → String
  | .null => "null"
  | .bool true => "true"
  | .bool false => "false"
  | .int n => toString n
  | .real text => text
  | .str s => quoted s
  | .arr items => "[" ++ compactItems items ++ "]"
  | .obj members => "\x7b" ++ compactMembers members ++ "\x7d"

def compactItems : List Json → String
  | [] => ""
  | [item] => compact item
  | item :: items => compact item ++ "," ++ compactItems items

def compactMembers : List (String × Json) → String
  | [] => ""
  | [(name, value)] => quoted name ++ ":" ++ compact value
  | (name, value) :: members => quoted name ++ ":" ++ compact value ++ "," ++ compactMembers members

end

def indentation (level : Nat) : String :=
  "\n" ++ .ofList (List.replicate (2 * level) ' ')

mutual

def prettyAt (level : Nat) : Json → String
  | .arr [] => "[]"
  | .arr (item :: items) =>
    "[" ++ prettyItems (level + 1) (item :: items) ++ indentation level ++ "]"
  | .obj [] => "\x7b\x7d"
  | .obj (member :: members) =>
    "\x7b" ++ prettyMembers (level + 1) (member :: members) ++ indentation level ++ "\x7d"
  | .null => "null"
  | .bool true => "true"
  | .bool false => "false"
  | .int n => toString n
  | .real text => text
  | .str s => quoted s

def prettyItems (level : Nat) : List Json → String
  | [] => ""
  | [item] => indentation level ++ prettyAt level item
  | item :: items => indentation level ++ prettyAt level item ++ "," ++ prettyItems level items

def prettyMembers (level : Nat) : List (String × Json) → String
  | [] => ""
  | [(name, value)] => indentation level ++ quoted name ++ ": " ++ prettyAt level value
  | (name, value) :: members =>
    indentation level ++ quoted name ++ ": " ++ prettyAt level value ++ "," ++
      prettyMembers level members

end

def pretty (json : Json) : String :=
  prettyAt 0 json

end ProofTutor.Json
