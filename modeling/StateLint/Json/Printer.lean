import StateLint.Json.Basic

namespace StateLint.Json

def hexDigit (n : Nat) : Char :=
  if n < 10 then Char.ofNat ('0'.toNat + n) else Char.ofNat ('a'.toNat + (n - 10))

def escape (c : Char) : List Char :=
  match c with
  | '"' => ['\\', '"']
  | '\\' => ['\\', '\\']
  | '\n' => ['\\', 'n']
  | '\r' => ['\\', 'r']
  | '\t' => ['\\', 't']
  | '\x08' => ['\\', 'b']
  | '\x0c' => ['\\', 'f']
  | _ =>
    if c.toNat < 0x20 then ['\\', 'u', '0', '0', hexDigit (c.toNat / 16), hexDigit (c.toNat % 16)]
      else [c]

def quoted (s : String) : String :=
  .ofList ('"' :: s.toList.flatMap escape ++ ['"'])

mutual

def compact : Json → String
  | null => "null"
  | bool true => "true"
  | bool false => "false"
  | int n => toString n
  | real text => text
  | str s => quoted s
  | arr items => "[" ++ ",".intercalate (compactItems items) ++ "]"
  | obj members => "\x7b" ++ ",".intercalate (compactMembers members) ++ "\x7d"

def compactItems : List Json → List String
  | [] => []
  | j :: js => j.compact :: compactItems js

def compactMembers : List (String × Json) → List String
  | [] => []
  | (key, j) :: ms => (quoted key ++ ":" ++ j.compact) :: compactMembers ms

end

def lineBreak (level : Nat) : String :=
  .ofList ('\n' :: List.replicate (2 * level) ' ')

def bracketed (left right : String) (level : Nat) (lines : List String) : String :=
  if lines.isEmpty then
    left ++ right
  else
    left ++ lineBreak (level + 1) ++ ("," ++ lineBreak (level + 1)).intercalate lines ++
      lineBreak level ++ right

mutual

def prettyAt (level : Nat) : Json → String
  | arr items => bracketed "[" "]" level (prettyItems (level + 1) items)
  | obj members => bracketed "\x7b" "\x7d" level (prettyMembers (level + 1) members)
  | null => "null"
  | bool true => "true"
  | bool false => "false"
  | int n => toString n
  | real text => text
  | str s => quoted s

def prettyItems (level : Nat) : List Json → List String
  | [] => []
  | j :: js => j.prettyAt level :: prettyItems level js

def prettyMembers (level : Nat) : List (String × Json) → List String
  | [] => []
  | (key, j) :: ms => (quoted key ++ ": " ++ j.prettyAt level) :: prettyMembers level ms

end

def pretty (j : Json) : String :=
  j.prettyAt 0

end StateLint.Json
