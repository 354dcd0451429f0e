import StateLint.Diagnostic.Json
import StateLint.Outcome

namespace StateLint.Outcome

open Json

def toJson (o : Outcome) : Json :=
  obj [("diagnostics", arr (o.diagnostics.map Diagnostic.toJson)),
    ("state_count", nat o.stateCount), ("legacy_source", str? o.arrayPath),
    ("modern_state_files", nat o.classFileCount)]

def ofJson? (j : Json) : Option Outcome := do
  let r ← j.toRecord? 4
  return {
    diagnostics := ← r.required 0 "diagnostics" (toList? Diagnostic.ofJson?)
    stateCount := ← r.required 1 "state_count" toCount?
    arrayPath := ← r.nullable 2 "legacy_source" toStr?
    classFileCount := ← r.required 3 "modern_state_files" toCount?
  }

end StateLint.Outcome
