import StateLint.Diagnostic
import StateLint.Settings
import StateLint.State.Definition

namespace StateLint.Checks

def declaredIds (settings : Settings) (states : List StateDefinition) : List UInt32 :=
  states.map (·.id) ++ settings.reservedIds

def targetIds (states : List StateDefinition) : List UInt32 :=
  states.flatMap (·.transitions.targets)

def locationsOf (states : List StateDefinition) (id : UInt32) : List String :=
  (states.filter (·.id = id)).map (·.location)

def duplicateId (id : UInt32) (locations : List String) : Diagnostic :=
  let quoted := " and ".intercalate (locations.map fun l => s!"`{l}`")
  Rule.duplicateId.finding (", ".intercalate locations)
    s!"Duplicate state ID {id} declared in: {quoted}"

def duplicateIds (states : List StateDefinition) : List Diagnostic :=
  let groups := (states.map (·.id)).eraseDups.map fun id => (id, locationsOf states id)
  (groups.filter (·.2.length > 1)).map fun g => duplicateId g.1 g.2

def brokenTransition (s : StateDefinition) (label : String) (target : UInt32) : Diagnostic :=
  Rule.brokenTransition.finding s.location
    s!"State `{s.name}` (id={s.id}): transition `'{label}'` points to id={target} which does not exist."

def brokenTransitions (settings : Settings) (states : List StateDefinition) : List Diagnostic :=
  states.flatMap fun s =>
    (s.transitions.toList.filter fun t => t.2 ∉ declaredIds settings states).map fun t =>
      brokenTransition s t.1 t.2

def unreachableState (s : StateDefinition) : Diagnostic :=
  Rule.unreachableState.finding s.location
    s!"State `{s.name}` (id={s.id}) is never referenced as a transition target, so it may be unreachable."

def unreachableStates (settings : Settings) (states : List StateDefinition) : List Diagnostic :=
  (states.filter fun s => s.id ∉ targetIds states && !settings.isReserved s.id).map unreachableState

end StateLint.Checks
