import StateLint.StateArray.Block
import StateLint.State.Definition

namespace StateLint.StateArray

open Text Reader

def textField (key : String) : Reader String := do
  literal "\""
  literal key
  literal "\""
  blanks
  literal "=>"
  blanks
  literal "\""
  let value ← run (· != '"')
  literal "\""
  return .ofList value

-- What stands between the brackets of a field that is written `"key" => [...]`, up to the first
-- closing one.
def listField (key : String) : Reader (List Char) := do
  literal "\""
  literal key
  literal "\""
  blanks
  literal "=>"
  blanks
  literal "["
  let items ← run (· != ']')
  literal "]"
  return items

def transition : Reader (String × List Char) := do
  literal "\""
  let label ← run (· != '"')
  literal "\""
  blanks
  literal "=>"
  blanks
  let target ← digits
  return (.ofList label, target)

def item : Reader String := do
  literal "\""
  let text ← run1 (· != '"')
  literal "\""
  return .ofList text

namespace Block

def text (b : Block) (key : String) : String :=
  match (textField key).anywhere.find? b.body with
  | some (value, _) => value
  | none => ""

-- The text of a field, if it is there and not empty.
def text? (b : Block) (key : String) : Option String :=
  let value := b.text key
  if value.isEmpty then none else some value

def list (b : Block) (key : String) : List Char :=
  match (listField key).anywhere.find? b.body with
  | some (items, _) => items
  | none => []

def transitions (b : Block) : Transitions :=
  .ofList ((transition.anywhere.findAll (b.list "transitions")).filterMap fun e =>
    (number? e.2).map (e.1, ·))

def actions (b : Block) : List String :=
  ((item.anywhere.findAll (b.list "possibleactions")).map Action.normalName).eraseDups

def definition? (location : String) (b : Block) : Option StateDefinition := do
  let id ← number? b.id
  let name ← b.text? "name"
  return {
    id, name, location
    kind := .ofType (b.text "type")
    transitions := b.transitions
    actions := b.actions
    hasZombie := false
    layout := .stateArray
    className := none
    description := b.text? "description"
    descriptionMyTurn := b.text? "descriptionmyturn"
    callback := b.text? "action"
  }

end Block

def states (text location : String) : List StateDefinition :=
  (blocks text.toList).filterMap (·.definition? location)

end StateLint.StateArray
