import StateLint.Checks.Battery
import StateLint.Failure
import StateLint.Model

namespace StateLint

structure Outcome where
  diagnostics : List Diagnostic
  stateCount : Nat
  -- The file of the state array, if there was one.
  arrayPath : Option String
  classFileCount : Nat
  deriving DecidableEq, Repr

namespace Outcome

def ofSeverity (o : Outcome) (s : Severity) : List Diagnostic :=
  o.diagnostics.filter (·.severity = s)

def count (o : Outcome) (s : Severity) : Nat :=
  (o.ofSeverity s).length

def errors (o : Outcome) : Nat := o.count .error
def warnings (o : Outcome) : Nat := o.count .warning
def infos (o : Outcome) : Nat := o.count .info

def passed (o : Outcome) : Bool :=
  o.errors = 0 && o.warnings = 0

def bySeverity (o : Outcome) : List Diagnostic :=
  Severity.all.flatMap o.ofSeverity

end Outcome

def unreadableFile (f : UnreadableFile) : Diagnostic :=
  Rule.unreadableFile.finding f.path s!"Could not read `{f.path}`: {f.reason}"

def findings (settings : Settings) (sources : Sources) : List Diagnostic :=
  let model := Model.ofSources sources
  sources.unreadable.map unreadableFile ++ model.notes ++
    Checks.battery settings sources model.states

def lint (settings : Settings) (sources : Sources) : Except Failure Outcome :=
  let states := (Model.ofSources sources).states
  if states.isEmpty then
    throw (.noStates sources.stateLocations)
  else
    return {
      diagnostics := (findings settings sources).filter (settings.isEnabled ·.code)
      stateCount := states.length
      arrayPath := sources.stateArray.map (·.path)
      classFileCount := sources.stateClasses.length
    }

def Outcome.verify (o : Outcome) (strict : Bool) : Except Failure Unit :=
  if o.errors > 0 || (strict && o.warnings > 0) then throw (.checksFailed o.errors o.warnings)
    else return ()

end StateLint
