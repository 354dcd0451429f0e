import StateLint.Diagnostic
import StateLint.Sources
import StateLint.StateArray.Definition
import StateLint.StateClass

namespace StateLint

-- All states of a game, and a note on each class file that declares none.
structure Model where
  states : List StateDefinition
  notes : List Diagnostic
  deriving DecidableEq, Repr

namespace Model

def classState? (f : SourceFile) : Option StateDefinition :=
  StateClass.state? f.text f.path

def note (f : SourceFile) : Diagnostic :=
  Rule.unknownClass.finding f.path
    s!"Could not parse `{f.fileName}` as a State class (no `class X extends GameState` with `id:` and `type:` found)."

def ofSources (s : Sources) : Model where
  states := s.stateArray.toList.flatMap (fun f => StateArray.states f.text f.path) ++
    s.stateClasses.filterMap classState?
  notes := (s.stateClasses.filter fun f => (classState? f).isNone).map note

end Model
end StateLint
