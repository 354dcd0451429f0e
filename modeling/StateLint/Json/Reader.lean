import StateLint.Json.Basic
import StateLint.Text.Reader

namespace StateLint.Json

open Text Reader

def space : Reader Unit := do
  let _ ← run fun c => c == ' ' || c == '\n' || c == '\r' || c == '\t'

def mark (w : String) : Reader Unit := do
  space
  literal w
  space

def hexValue? (c : Char) : Option Nat :=
  if c.isDigit then some (c.toNat - '0'.toNat)
  else if 'a' ≤ c && c ≤ 'f' then some (c.toNat - 'a'.toNat + 10)
  else if 'A' ≤ c && c ≤ 'F' then some (c.toNat - 'A'.toNat + 10)
  else none

def codeUnit : Reader Nat
  | a :: b :: c :: d :: s => do
    let a ← hexValue? a
    let b ← hexValue? b
    let c ← hexValue? c
    let d ← hexValue? d
    return (((a * 16 + b) * 16 + c) * 16 + d, s)
  | _ => none

def unicodeEscape : Reader Char := do
  let u ← codeUnit
  if 0xD800 ≤ u && u < 0xDC00 then
    literal "\\u"
    let v ← codeUnit
    if 0xDC00 ≤ v && v < 0xE000 then
      return Char.ofNat (0x10000 + (u - 0xD800) * 0x400 + (v - 0xDC00))
    else
      failure
  else if 0xDC00 ≤ u && u < 0xE000 then
    failure
  else
    return Char.ofNat u

def escaped : Reader Char
  | 'u' :: s => unicodeEscape s
  | 'n' :: s => some ('\n', s)
  | 'r' :: s => some ('\r', s)
  | 't' :: s => some ('\t', s)
  | 'b' :: s => some ('\x08', s)
  | 'f' :: s => some ('\x0c', s)
  | c :: s => if c == '"' || c == '\\' || c == '/' then some (c, s) else none
  | [] => none

def textRest : Nat → Reader (List Char)
  | 0, _ => none
  | _, [] => none
  | n + 1, c :: s =>
    if c == '"' then
      some ([], s)
    else if c == '\\' then do
      let (c, s) ← escaped s
      let (cs, s) ← textRest n s
      return (c :: cs, s)
    else if c.toNat < 0x20 then
      none
    else do
      let (cs, s) ← textRest n s
      return (c :: cs, s)

def text : Reader String
  | '"' :: s => (textRest (s.length + 1) s).map fun x => (.ofList x.1, x.2)
  | _ => none

def whole : Reader (List Char) := do
  let ds ← run1 Char.isDigit
  if ds.head? == some '0' && ds.length > 1 then failure else return ds

def fraction : Reader (List Char)
  | '.' :: s => (run1 Char.isDigit s).map fun x => ('.' :: x.1, x.2)
  | s => some ([], s)

def exponent : Reader (List Char)
  | c :: s =>
    if c == 'e' || c == 'E' then do
      let sign := s.takeWhile (fun c => c == '+' || c == '-')
      if sign.length > 1 then
        none
      else
        let (ds, s) ← run1 Char.isDigit (s.drop sign.length)
        return (c :: sign ++ ds, s)
    else
      some ([], c :: s)
  | [] => some ([], [])

-- A number. Zero with a minus sign is no integer.
def number : Reader Json := do
  let minus ← optional (literal "-")
  let ds ← whole
  let fr ← fraction
  let ex ← exponent
  let sign := if minus.isSome then ['-'] else []
  let n := ds.foldl (fun n c => 10 * n + (c.toNat - '0'.toNat)) 0
  if fr.isEmpty && ex.isEmpty && !(minus.isSome && n == 0) then
    return int (if minus.isSome then -(n : Int) else n)
  else
    return real (.ofList (sign ++ ds ++ fr ++ ex))

def lastOfEach : List (String × Json) → List (String × Json)
  | [] => []
  | m :: ms => if ms.any (·.1 = m.1) then lastOfEach ms else m :: lastOfEach ms

mutual

-- A value of bounded depth.
def value : Nat → Reader Json
  | 0 => failure
  | n + 1 => do
    space
    (do literal "null"; return null)
      <|> (do literal "true"; return bool true)
      <|> (do literal "false"; return bool false)
      <|> (do return str (← text))
      <|> (do mark "["; return arr (← items n))
      <|> (do mark "\x7b"; return obj (lastOfEach (← members n)))
      <|> number

def items : Nat → Reader (List Json)
  | 0 => failure
  | n + 1 => (do literal "]"; return []) <|> (do
    let j ← value n
    let js ← moreItems n
    return j :: js)

def moreItems : Nat → Reader (List Json)
  | 0 => failure
  | n + 1 => do
    space
    (do literal "]"; return []) <|> (do
      literal ","
      let j ← value n
      let js ← moreItems n
      return j :: js)

def members : Nat → Reader (List (String × Json))
  | 0 => failure
  | n + 1 => (do literal "\x7d"; return []) <|> (do
    let m ← member n
    let ms ← moreMembers n
    return m :: ms)

def moreMembers : Nat → Reader (List (String × Json))
  | 0 => failure
  | n + 1 => do
    space
    (do literal "\x7d"; return []) <|> (do
      literal ","
      space
      let m ← member n
      let ms ← moreMembers n
      return m :: ms)

def member : Nat → Reader (String × Json)
  | 0 => failure
  | n + 1 => do
    let key ← text
    mark ":"
    let j ← value n
    return (key, j)

end

def ofText? (s : String) : Option Json :=
  let cs := s.toList
  match value (2 * cs.length + 2) cs with
  | some (j, rest) =>
    if rest.all (fun c => c == ' ' || c == '\n' || c == '\r' || c == '\t') then some j else none
  | none => none

end StateLint.Json
