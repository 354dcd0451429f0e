import StateLint.State.Definition
import StateLint.Text.Lowercase

namespace StateLint.StateClass

open Text Reader

def idArgument : Reader (List Char) := do
  literal "id"
  blanks
  literal ":"
  blanks
  digits

def typeArgument : Reader String := do
  literal "type"
  blanks
  literal ":"
  blanks
  literal "StateType::"
  let word ← name
  return .ofList ("StateType::".toList ++ word)

-- What stands between the brackets of the argument `transitions: [...]`, up to the first closing
-- one.
def transitionsArgument : Reader (List Char) := do
  literal "transitions"
  blanks
  literal ":"
  blanks
  literal "["
  let items ← run (· != ']')
  literal "]"
  return items

def transition : Reader (String × List Char) := do
  let q ← quote
  let label ← run1 (· != q)
  let _ ← one (· == q)
  blanks
  literal "=>"
  blanks
  let target ← digits
  return (.ofList label, target)

def head : Reader String := do
  literal "class"
  blanks1
  let n ← name
  blanks1
  literal "extends"
  blanks1
  literal "GameState"
  wordEnd
  return .ofList n

def zombieMethod : Reader Unit := do
  literal "public"
  blanks1
  literal "function"
  blanks1
  literal "zombie"
  blanks
  literal "("

def marker : Reader Unit :=
  literal "#[PossibleAction]"

def actionMethod : Reader (List Char) := do
  blanks
  literal "public"
  blanks1
  literal "function"
  blanks1
  literal "act"
  let n ← name
  blanks
  literal "("
  return n

-- A marked method, as its name without `act`. A line comment may stand between the attribute and
-- the method; if no method follows the comment, one that stands in the comment is taken, the last
-- one there first.
def markedMethod : Reader (List Char) := do
  marker
  blanks
  afterComment <|> actionMethod
where
  afterComment := do
    literal "//"
    fun s => skipFarthest actionMethod (s.takeWhile (· != '\n')).length s

def markerImport : Reader Unit := do
  literal "use"
  blanks1
  let _ ← optional (literal "\\")
  literal "Bga\\GameFramework\\States\\PossibleAction"
  wordEnd

def lowerFirst : List Char → List Char
  | [] => []
  | c :: cs => lowercase c ++ cs

def hasMarker (text : String) : Bool :=
  marker.anywhere.occursIn text.toList

def markerCount (text : String) : Nat :=
  (marker.anywhere.places text.toList).length

def importsMarker (text : String) : Bool :=
  markerImport.anywhere.occursIn text.toList

-- The transitions that a file declares. Targets that do not fit into 32 bits are passed over.
def transitions (text : List Char) : Transitions :=
  match transitionsArgument.atWordStart.find? text with
  | some (items, _) =>
    .ofList ((transition.anywhere.findAll items).filterMap fun e => (number? e.2).map (e.1, ·))
  | none => .empty

def actions (text : List Char) : List String :=
  ((markedMethod.anywhere.findAll text).map fun n => String.ofList (lowerFirst n)).eraseDups

-- The state that a file declares, if it has an id that fits into 32 bits, a type and the head of a
-- class:
--
--   class PlayerTurn extends GameState {
--     function __construct(protected Game $game) {
--       parent::__construct($game, id: 10, type: StateType::ACTIVE_PLAYER,
--         transitions: ['pass' => 20]);
--     }
--     #[PossibleAction]
--     public function actPass(int $activePlayerId): string { return 'pass'; }
--   }
def state? (text location : String) : Option StateDefinition := do
  let chars := text.toList
  let (digits, _) ← idArgument.atWordStart.find? chars
  let id ← number? digits
  let (type, _) ← typeArgument.atWordStart.find? chars
  let (name, _) ← head.anywhere.find? chars
  return {
    id, name, location
    kind := .ofType type
    transitions := transitions chars
    actions := actions chars
    hasZombie := zombieMethod.anywhere.occursIn chars
    layout := .stateClass
    className := some name
    description := none
    descriptionMyTurn := none
    callback := none
  }

end StateLint.StateClass
