import StateLint.Model
import StateLint.Proofs.StateArray.LineBreak
import StateLint.Proofs.StateClass.LineBreak

namespace StateLint

open Text

def SourceFile.crlf (f : SourceFile) : SourceFile :=
  { f with text := crlfText f.text }

def Sources.crlf (s : Sources) : Sources :=
  { s with
    stateArray := s.stateArray.map SourceFile.crlf
    stateClasses := s.stateClasses.map SourceFile.crlf
    clientScript := s.clientScript.map SourceFile.crlf
    mainScript := s.mainScript.map SourceFile.crlf
    serverScripts := s.serverScripts.map SourceFile.crlf }

namespace Model

theorem classState?_crlf (f : SourceFile) :
    classState? f.crlf = (classState? f).map StateDefinition.crlf :=
  StateClass.state?_crlf f.text f.path

theorem states_crlf (s : Sources) :
    (ofSources s.crlf).states = (ofSources s).states.map StateDefinition.crlf := by
  have ha : s.crlf.stateArray.toList = s.stateArray.toList.map SourceFile.crlf :=
    Option.toList_map ..
  have hc : s.crlf.stateClasses = s.stateClasses.map SourceFile.crlf := rfl
  have hs (f : SourceFile) :
      StateArray.states f.crlf.text f.crlf.path =
        (StateArray.states f.text f.path).map StateDefinition.crlf :=
    StateArray.states_crlf f.text f.path
  simp only [ofSources, ha, hc, List.flatMap_map, List.filterMap_map, hs, Function.comp_def,
    classState?_crlf, List.map_append, List.map_flatMap, List.map_filterMap]

theorem notes_crlf (s : Sources) : (ofSources s.crlf).notes = (ofSources s).notes := by
  have hc : s.crlf.stateClasses = s.stateClasses.map SourceFile.crlf := rfl
  simp only [ofSources, hc, List.filter_map, List.map_map, Function.comp_def, classState?_crlf,
    Option.isNone_map]
  rfl

-- Files with carriage returns declare the same states but for the line breaks in texts, and leave
-- the same notes.
theorem ofSources_crlf (s : Sources) :
    (ofSources s.crlf).states = (ofSources s).states.map StateDefinition.crlf ∧
      (ofSources s.crlf).notes = (ofSources s).notes ∧
      ∀ d ∈ (ofSources s).states,
        d.crlf.transitions.toList.Perm (d.transitions.toList.map fun e => (crlfText e.1, e.2)) ∧
          ((∀ t ∈ d.texts, '\n' ∉ t.toList) → d.crlf = d) :=
  ⟨states_crlf s, notes_crlf s, fun d _ =>
    ⟨Transitions.toList_relabel_perm crlfText_injective d.transitions,
      StateDefinition.crlf_of_texts⟩⟩

def brokenLabelGame : Sources :=
  Sources.empty.withStateClass "Turn.php"
    "class Turn extends GameState \x7b id: 2, type: StateType::GAME, transitions: ['to\nnext' => 3] \x7d"

theorem brokenLabelGame_crlf :
    (ofSources brokenLabelGame.crlf).states.map (·.transitions.toList) = [[("to\r\nnext", 3)]] := by
  rw [(ofSources_crlf brokenLabelGame).left]
  decide

end Model
end StateLint
