import StateLint.Overview
import StateLint.ServerScript

namespace StateLint.ActionListing

def methods (main : SourceFile) : String :=
  let actions := ServerScript.playerActions main.text
  s!"{main.path} ({actions.length}):\n" ++
    (if actions.isEmpty then "  (none)\n" else String.join (actions.map line)) ++ "\n"
where
  line (a : PlayerAction) : String :=
    s!"  {a.name}({a.params})" ++ (if a.guarded then "  [checkAction]" else "") ++ "\n"

def declared (states : List StateDefinition) : String :=
  let declaring := states.filter (!·.actions.isEmpty)
  s!"Declared by states ({declaring.length}):\n" ++
    if declaring.isEmpty then "  (none)\n" else String.join (declaring.map line)
where
  line (s : StateDefinition) : String :=
    s!"  [{s.id}] {s.name}: " ++ ", ".intercalate s.actions ++ "\n"

def render (sources : Sources) (label : String) : Except Failure String :=
  let states := (Model.ofSources sources).sorted
  if sources.mainScript.isNone && states.isEmpty then
    throw (.noActions label)
  else
    return s!"PLAYER ACTIONS: {label}\n{ruleLine}\n\n" ++
      (sources.mainScript.map methods).getD "" ++ declared states

end StateLint.ActionListing
