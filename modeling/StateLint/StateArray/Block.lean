import StateLint.Text.Basic

namespace StateLint.StateArray

open Text Reader

-- A stretch of the array: the id as it is written, and the text up to the next block. The array is
-- keyed by id, one block to a state:
--
--   2 => [
--     "name" => "playerTurn",
--     "transitions" => ["pass" => 3],
--   ],
structure Block where
  id : List Char
  body : List Char
  deriving DecidableEq, Repr

namespace Block

def opening : Reader (List Char) := do
  let id ← digits
  blanks
  literal "=>"
  blanks
  literal "["
  return id

-- What ends a block: a line that starts with the key of another one, or the line that closes the
-- array.
def ending : Reader Unit :=
  key <|> literal "\n];"
where
  key := do
    literal "\n"
    blanks
    let _ ← digits
    blanks
    literal "=>"

theorem opening_advances : opening.Advances :=
  (run1_advances _).bind fun _ => blanks_leavesEnd.bind fun _ => (literal_leavesEnd _).bind fun _ =>
    blanks_leavesEnd.bind fun _ => (literal_leavesEnd _).bind fun _ => .pure _

end Block

def blocks (text : List Char) : List Block :=
  match _ : Block.opening.anywhere.find? text with
  | none => []
  | some (id, rest) =>
    let parts := Block.ending.anywhere.split rest
    ⟨id, parts.1⟩ :: blocks parts.2
termination_by text.length
decreasing_by
  have := Pattern.find?_shorter (fun _ => Block.opening_advances) ‹_ = some _›
  have := congrArg List.length (Block.ending.anywhere.split_append rest)
  simp only [List.length_append] at this
  omega

end StateLint.StateArray
