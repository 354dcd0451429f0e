import StateLint.Action
import StateLint.State.Kind
import StateLint.State.Transitions

namespace StateLint

inductive Layout where
  -- An entry of the array of all states.
  | stateArray
  -- A class in a file of its own.
  | stateClass
  deriving DecidableEq, Repr

structure StateDefinition where
  id : UInt32
  name : String
  kind : StateKind
  transitions : Transitions
  -- Normal names of the actions that players may take, without repetition.
  actions : List String
  -- Whether the state says what happens when the active player has left.
  hasZombie : Bool
  layout : Layout
  -- The file that declares the state.
  location : String
  className : Option String
  description : Option String
  descriptionMyTurn : Option String
  -- The method that the framework calls on entering the state.
  callback : Option String
  deriving DecidableEq, Repr

namespace StateDefinition

def bare (id : UInt32) (name : String) (kind : StateKind) (layout : Layout) (location : String) :
    StateDefinition where
  id
  name
  kind
  transitions := .empty
  actions := []
  hasZombie := false
  layout
  location
  className := none
  description := none
  descriptionMyTurn := none
  callback := none

def withTransition (s : StateDefinition) (label : String) (target : UInt32) : StateDefinition :=
  { s with transitions := s.transitions.insert label target }

-- Declares an action under its normal name, if it is new.
def withAction (s : StateDefinition) (action : String) : StateDefinition :=
  let name := Action.normalName action
  if name ∈ s.actions then s else { s with actions := s.actions ++ [name] }

def withZombie (s : StateDefinition) (present : Bool) : StateDefinition :=
  { s with hasZombie := present }

def withClassName (s : StateDefinition) (name : String) : StateDefinition :=
  { s with className := some name }

def isStateClass (s : StateDefinition) : Bool :=
  s.layout = .stateClass

end StateDefinition
end StateLint
