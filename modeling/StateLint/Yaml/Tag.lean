import StateLint.Json.Reader

namespace StateLint.Yaml

abbrev Tag := List UInt8

namespace Tag

def ofText (s : String) : Tag :=
  s.toUTF8.toList

def mark : Tag := ofText "!"

def core : Tag := ofText "tag:yaml.org,2002:"

def int : Tag := core ++ ofText "int"

def following? (first : Nat) : Option Nat :=
  if first < 0x80 then some 0
  else if first < 0xC0 then none
  else if first < 0xE0 then some 1
  else if first < 0xF0 then some 2
  else if first < 0xF8 then some 3
  else none

-- The bytes of a tag as it is written. All bytes of one character have to be escaped alike: `more`
-- of them are still to come.
def bytes? (more : Nat) : List Char → Option (List UInt8)
  | [] => if more = 0 then some [] else none
  | '%' :: a :: b :: rest => do
    let byte := 16 * (← Json.hexValue? a) + (← Json.hexValue? b)
    let more ←
      match more with
      | 0 => following? byte
      | n + 1 => if 0x80 ≤ byte && byte < 0xC0 then some n else none
    return .ofNat byte :: (← bytes? more rest)
  | c :: rest =>
    if more = 0 && c != '%' then do return .ofNat c.toNat :: (← bytes? 0 rest) else none

def ofUri? (uri : List Char) : Option Tag :=
  (bytes? 0 uri).map (·.takeWhile (· != 0))

end Tag
end StateLint.Yaml
