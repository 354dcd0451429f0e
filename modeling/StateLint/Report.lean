import StateLint.Outcome.Json

namespace StateLint

def ruleLine : String := "━━━━━━━━━━━━━━━━━━━━━━━━━━━━━━━━━━━━━━━━━"

namespace Outcome

def statusLine (o : Outcome) : String :=
  if o.errors > 0 then
    s!"{Severity.error.symbol} Status: {o.errors} error(s), fix these before submitting"
  else if o.warnings > 0 then
    s!"{Severity.warning.symbol} Status: {o.warnings} warning(s), review recommended"
  else
    "✓ Status: All checks passed"

def verdict (o : Outcome) : String :=
  s!"{o.stateCount} state(s) checked: {o.errors} error(s), {o.warnings} warning(s), {o.infos} info(s)"

def scanned (o : Outcome) : String :=
  " + ".intercalate (o.arrayPath.toList ++
    if o.classFileCount > 0 then [s!"{o.classFileCount} state class file(s)"] else [])

def item (s : Severity) (d : Diagnostic) : String :=
  let lines := s!"  {s.symbol} [{d.code}] {d.location}\n      {d.message}\n"
  match d.hint with
  | some hint => s!"{lines}      Suggestion: {hint}\n"
  | none => lines

def severitySection (o : Outcome) (s : Severity) : String :=
  let found := o.ofSeverity s
  if found.isEmpty then
    ""
  else
    s!"{s.heading} ({found.length}):\n" ++ String.join (found.map (item s)) ++ "\n"

def header (o : Outcome) (label : String) : String :=
  s!"VALIDATION REPORT: {label}\n{ruleLine}\n\n{o.statusLine}\n\n" ++
    s!"Scanned {o.stateCount} state definition(s) across {o.scanned}\n\n"

def summary (o : Outcome) : String :=
  s!"{ruleLine}\nSummary: {o.errors} errors, {o.warnings} warnings, {o.infos} infos, {o.stateCount} states checked\n"

def report (o : Outcome) (label : String) : String :=
  o.header label ++ String.join (Severity.all.map o.severitySection) ++ o.summary

def reportJson (o : Outcome) (label : String) : Json :=
  .obj [("project", .str label), ("passed", .bool o.passed), ("state_count", .nat o.stateCount),
    ("legacy_source", .str? o.arrayPath), ("modern_state_files", .nat o.classFileCount),
    ("errors", .nat o.errors), ("warnings", .nat o.warnings), ("infos", .nat o.infos),
    ("diagnostics", .arr (o.bySeverity.map Diagnostic.toJson))]

end Outcome
end StateLint
