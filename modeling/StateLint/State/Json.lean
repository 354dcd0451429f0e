import StateLint.Json.Record
import StateLint.State.Definition

namespace StateLint

open Json

namespace StateKind

def toWord : StateKind → String
  | singlePlayer => "single_player_active"
  | multiPlayer => "multi_player_active"
  | privateState => "private"
  | automatic => "automatic"

def ofWord? : String → Option StateKind
  | "single_player_active" => some singlePlayer
  | "multi_player_active" => some multiPlayer
  | "private" => some privateState
  | "automatic" => some automatic
  | _ => none

end StateKind

namespace Layout

def toWord : Layout → String
  | stateArray => "legacy_array"
  | stateClass => "modern_class"

def ofWord? : String → Option Layout
  | "legacy_array" => some stateArray
  | "modern_class" => some stateClass
  | _ => none

end Layout

namespace Transitions

def toJson (t : Transitions) : Json :=
  obj (t.toList.map fun e => (e.1, nat e.2.toNat))

def ofJson? : Json → Option Transitions
  | obj members => (members.mapM fun m : String × Json => m.2.toUInt32?.map (m.1, ·)).map .ofList
  | _ => none

end Transitions

namespace StateDefinition

def toJson (s : StateDefinition) : Json :=
  obj ([("id", nat s.id.toNat), ("name", str s.name), ("kind", str s.kind.toWord),
      ("transitions", s.transitions.toJson), ("declared_actions", strs s.actions),
      ("has_zombie_handler", bool s.hasZombie), ("source_kind", str s.layout.toWord),
      ("source_location", str s.location), ("declared_class_name", str? s.className)]
    ++ optionalMember "description" s.description
    ++ optionalMember "description_my_turn" s.descriptionMyTurn
    ++ optionalMember "legacy_callback" s.callback)
where
  optionalMember (key : String) (value : Option String) : List (String × Json) :=
    value.toList.map fun v => (key, str v)

def ofJson? (j : Json) : Option StateDefinition := do
  let r ← j.toRecord? 12
  return {
    id := ← r.required 0 "id" toUInt32?
    name := ← r.required 1 "name" toStr?
    kind := ← r.required 2 "kind" fun j => j.toWord?.bind StateKind.ofWord?
    transitions := ← r.required 3 "transitions" Transitions.ofJson?
    actions := ← r.required 4 "declared_actions" (toList? toStr?)
    hasZombie := ← r.required 5 "has_zombie_handler" toBool?
    layout := ← r.required 6 "source_kind" fun j => j.toWord?.bind Layout.ofWord?
    location := ← r.required 7 "source_location" toStr?
    className := ← r.nullable 8 "declared_class_name" toStr?
    description := ← r.defaulted 9 "description" (toOption? toStr?) none
    descriptionMyTurn := ← r.defaulted 10 "description_my_turn" (toOption? toStr?) none
    callback := ← r.defaulted 11 "legacy_callback" (toOption? toStr?) none
  }

end StateDefinition
end StateLint
