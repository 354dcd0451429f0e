import StateLint.Text.Pattern

namespace StateLint.Text

def trim (s : List Char) : List Char :=
  ((s.dropWhile isBlank).reverse.dropWhile isBlank).reverse

def words (s : List Char) : List (List Char) :=
  go [] s
where
  -- `word` holds the stretch that is open, last character first.
  go (word : List Char) : List Char → List (List Char)
    | [] => if word.isEmpty then [] else [word.reverse]
    | c :: cs =>
      if isBlank c then
        if word.isEmpty then go [] cs else word.reverse :: go [] cs
      else
        go (c :: word) cs

def mentions (w : String) (s : List Char) : Bool :=
  (Reader.literal w).anywhere.occursIn s

def asciiLower (s : List Char) : List Char :=
  s.map Char.toLower

def lastComponent (path : String) : String :=
  .ofList (path.toList.reverse.takeWhile fun c => c != '/' && c != '\\').reverse

-- The number that a run of digits stands for, if all of them are ASCII digits and it fits into 32
-- bits.
def number? (s : List Char) : Option UInt32 :=
  let n := s.foldl (fun n c => 10 * n + (c.toNat - '0'.toNat)) 0
  if !s.isEmpty && s.all Char.isDigit && n < UInt32.size then some (.ofNat n) else none

end StateLint.Text
