import StateLint.Failure
import StateLint.Model
import StateLint.Report
import StateLint.State.Json

namespace StateLint

structure Overview where
  -- The states in ascending order of their ids; those of one id in the order of the model.
  states : List StateDefinition
  -- The class files that declare no state.
  skipped : List String
  deriving DecidableEq, Repr

-- The states of a model in ascending order of their ids; those of one id stay in order.
def Model.sorted (m : Model) : List StateDefinition :=
  m.states.mergeSort fun s t => s.id ≤ t.id

namespace Overview

def ofSources (sources : Sources) : Except Failure Overview :=
  let model := Model.ofSources sources
  if model.states.isEmpty then
    throw (.noStates sources.stateLocations)
  else
    return { states := model.sorted, skipped := model.notes.map (·.location) }

def entry (s : StateDefinition) : String :=
  s!"[{s.id}] {s.name} ({s.kind.label})\n    source: {s.location}\n" ++
    field "description" s.description ++ field "action" s.callback ++ transitions ++ actions ++ "\n"
where
  field (name : String) (value : Option String) : String :=
    match value with
    | some v => s!"    {name}: {v}\n"
    | none => ""
  transitions : String :=
    let lines := s.transitions.toList.map fun t =>
      let label := if t.1.isEmpty then "(default)" else t.1
      s!"      {label} -> {t.2}\n"
    if lines.isEmpty then "    transitions: (none)\n" else "    transitions:\n" ++ String.join lines
  actions : String :=
    if s.actions.isEmpty then "" else "    actions: " ++ ", ".intercalate s.actions ++ "\n"

def render (o : Overview) (label : String) : String :=
  s!"STATE MACHINE: {label}\n{ruleLine}\n\n" ++
    String.join (o.states.map entry) ++
    String.join (o.skipped.map fun f => s!"ℹ Skipped {f}: not a recognisable State class\n") ++
    s!"{o.states.length} state(s)\n"

def toJson (o : Overview) : Json :=
  .obj [("states", .arr (o.states.map StateDefinition.toJson)), ("skipped_files", .strs o.skipped)]

end Overview
end StateLint
