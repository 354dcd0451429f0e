import StateLint.Action
import StateLint.Text.Basic

namespace StateLint

structure PlayerAction where
  name : String
  -- The list of parameters, with single blanks.
  params : String
  -- Whether the body checks that the action is possible.
  guarded : Bool
  deriving DecidableEq, Repr

def PlayerAction.normalName (a : PlayerAction) : String :=
  Action.normalName a.name

namespace ServerScript

open Text Reader

def sendToAll : Reader (List Char) := do
  literal "notify"
  blanks
  literal "->"
  blanks
  literal "all"
  let _ ← run isWord
  blanks
  literal "("
  blanks
  quotedName

def sendToOne : Reader (List Char) := do
  (do
    literal "notify"
    blanks
    literal "->"
    blanks
    literal "player"
    let _ ← optional (literal "s")) <|> literal "notifyPlayer"
  blanks
  literal "("
  let _ ← run1 fun c => c != ',' && c != '(' && c != ')'
  literal ","
  blanks
  quotedName

def sendToAllPlayers : Reader (List Char) := do
  literal "notifyAllPlayers"
  blanks
  literal "("
  blanks
  quotedName

def send : Reader String := do
  return .ofList (← sendToAll <|> sendToOne <|> sendToAllPlayers)

-- The notifications that a script sends. Every place counts: two sends that share text either have
-- the name in common or are in the order of their names.
def sentNotifications (text : String) : List String :=
  (send.anywhere.places text.toList).eraseDups

def functionHead : Reader (List Char × List Char) := do
  literal "function"
  blanks1
  let n ← name
  blanks
  literal "("
  let params ← run (· != ')')
  literal ")"
  return (n, params)

-- A check that the action is possible, `self::checkAction(` or `$this->checkAction(`.
def guardCall : Reader Unit := do
  literal "self::" <|> (do
    literal "$this"
    blanks
    literal "->"
    blanks)
  literal "checkAction"
  blanks
  literal "("

-- The functions of a script. The body of each runs to the head of the next.
def functions (text : String) : List PlayerAction :=
  (functionHead.anywhere.cut text.toList).map fun ((n, params), body) =>
    { name := .ofList n
      params := .ofList ([' '].intercalate (words params))
      guarded := guardCall.anywhere.occursIn body }

-- The functions that players may call: those that check the action and those that are named as one.
-- Of several with the same name the first counts.
def playerActions (text : String) : List PlayerAction :=
  ((functions text).filter fun f => f.guarded || f.normalName != f.name).eraseDupsBy fun f g =>
    f.name == g.name

def returned : Reader (List Char) := do
  literal "return"
  let value ← run (· != ';')
  literal ";"
  if value.length > 1 && value.head?.any isBlank then return trim value else failure

-- The return statement that opens a body, after blanks and line comments. If no such statement
-- follows the comments, one that stands in a comment is taken: in the last of them that has one,
-- the last one there.
def openingReturn (s : List Char) : Option (List Char × List Char) :=
  match s with
  | '/' :: '/' :: comment =>
    let next := (comment.dropWhile (· != '\n')).dropWhile isBlank
    (openingReturn next).or (skipFarthest returned (comment.takeWhile (· != '\n')).length comment)
  | _ => returned s
termination_by s.length
decreasing_by
  have := (List.dropWhile_suffix (l := comment.dropWhile (· != '\n')) isBlank).length_le
  have := (List.dropWhile_suffix (l := comment) (· != '\n')).length_le
  simp only [List.length_cons]
  omega

-- The method that tells how far the game has got, as the value of the return statement that opens
-- its body.
def progression : Reader (List Char) := do
  literal "function"
  blanks1
  literal "getGameProgression"
  blanks
  literal "("
  let _ ← run (· != ')')
  literal ")"
  let _ ← run (· != '\x7b')
  literal "\x7b"
  blanks
  openingReturn

def progressionIsStub (text : String) : Bool :=
  match progression.anywhere.find? text.toList with
  | some (value, _) => value == ['0']
  | none => false

-- The method that sets the game up, as the value of the first return statement within 500
-- characters of its name.
def setupReturn : Reader (List Char) := do
  literal "function"
  blanks1
  literal "setupNewGame"
  skipAtMost returned 500

def setupReturn? (text : String) : Option String :=
  (setupReturn.anywhere.find? text.toList).map fun x => .ofList x.1

end ServerScript
end StateLint
