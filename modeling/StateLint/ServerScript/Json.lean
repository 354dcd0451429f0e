import StateLint.Json.Record
import StateLint.ServerScript

namespace StateLint.PlayerAction

open Json

def toJson (a : PlayerAction) : Json :=
  obj [("name", str a.name), ("params", str a.params), ("guarded", bool a.guarded)]

def ofJson? (j : Json) : Option PlayerAction := do
  let r ← j.toRecord? 3
  return ⟨← r.required 0 "name" toStr?, ← r.required 1 "params" toStr?,
    ← r.required 2 "guarded" toBool?⟩

end StateLint.PlayerAction
