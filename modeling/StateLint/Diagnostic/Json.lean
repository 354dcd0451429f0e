import StateLint.Diagnostic
import StateLint.Json.Record

namespace StateLint

open Json

def Severity.ofWord? : String → Option Severity
  | "error" => some error
  | "warning" => some warning
  | "info" => some info
  | _ => none

namespace Diagnostic

def toJson (d : Diagnostic) : Json :=
  obj [("severity", str d.severity.toWord), ("code", str d.code), ("location", str d.location),
    ("message", str d.message), ("hint", str? d.hint)]

def ofJson? (j : Json) : Option Diagnostic := do
  let r ← j.toRecord? 5
  return {
    severity := ← r.required 0 "severity" fun j => j.toWord?.bind Severity.ofWord?
    code := ← r.required 1 "code" toStr?
    location := ← r.required 2 "location" toStr?
    message := ← r.required 3 "message" toStr?
    hint := ← r.nullable 4 "hint" toStr?
  }

end Diagnostic
end StateLint
