import StateLint.Proofs.Outcome
import StateLint.Proofs.StableSort
import StateLint.Report

namespace StateLint

namespace Severity

variable {s t : Severity}

theorem rank_inj : s.rank = t.rank ↔ s = t := by
  cases s <;> cases t <;> simp [rank]

theorem ascending_all : (all.map rank).Pairwise (· < ·) := by
  simp [all, rank]

end Severity

namespace Outcome

variable {o : Outcome} {label : String} {s : Severity}

def presented (o : Outcome) : List Diagnostic :=
  o.diagnostics.mergeSort fun d e => d.severity.rank ≤ e.severity.rank

def countIn (shown : List Diagnostic) (s : Severity) : Nat :=
  (shown.filter (·.severity = s)).length

-- The lines of one finding, and those of the findings of one severity under their heading.

def linesOf (mark : String) (d : Diagnostic) : String :=
  s!"  {mark} [{d.code}] {d.location}\n      {d.message}\n" ++
    match d.hint with
    | some hint => s!"      Suggestion: {hint}\n"
    | none => ""

def sectionOf (shown : List Diagnostic) (s : Severity) (title mark : String) : String :=
  let found := shown.filter (·.severity = s)
  if found = [] then "" else
    s!"{title} ({found.length}):\n" ++ String.join (found.map (linesOf mark)) ++ "\n"

def membersOf (d : Diagnostic) : Json :=
  let word := match d.severity with
    | .error => "error"
    | .warning => "warning"
    | .info => "info"
  .obj [("severity", .str word), ("code", .str d.code), ("location", .str d.location),
    ("message", .str d.message), ("hint", d.hint.elim .null .str)]

def originOf (o : Outcome) : String :=
  match o.arrayPath, o.classFileCount with
  | none, 0 => ""
  | some path, 0 => path
  | none, n + 1 => s!"{n + 1} state class file(s)"
  | some path, n + 1 => s!"{path} + {n + 1} state class file(s)"

structure Presents (o : Outcome) (label : String) (shown : List Diagnostic) : Prop where
  -- The findings are those of the outcome, the gravest first and otherwise in their order.
  perm        : shown.Perm o.diagnostics
  ascending   : shown.Pairwise fun d e => d.severity.rank ≤ e.severity.rank
  stable      : ∀ s, shown.filter (·.severity = s) = o.diagnostics.filter (·.severity = s)
  -- The JSON value lists and counts them.
  diagnostics : (o.reportJson label).get? "diagnostics" = some (.arr (shown.map membersOf))
  errors      : (o.reportJson label).get? "errors" = some (.nat (countIn shown .error))
  warnings    : (o.reportJson label).get? "warnings" = some (.nat (countIn shown .warning))
  infos       : (o.reportJson label).get? "infos" = some (.nat (countIn shown .info))
  total       : countIn shown .error + countIn shown .warning + countIn shown .info = shown.length
  -- The text has a section for each severity that occurs. Together the sections have the findings
  -- in their order.
  text        :
    let n := countIn shown
    o.report label =
      s!"VALIDATION REPORT: {label}\n{ruleLine}\n\n{o.statusLine}\n\n" ++
      s!"Scanned {o.stateCount} state definition(s) across {originOf o}\n\n" ++
      sectionOf shown .error "Errors" "✗" ++
      sectionOf shown .warning "Warnings" "⚠" ++
      sectionOf shown .info "Info / Suggestions" "ℹ" ++
      s!"{ruleLine}\nSummary: {n .error} errors, {n .warning} warnings, {n .info} infos, " ++
      s!"{o.stateCount} states checked\n"
  sections    :
    let found := fun s => shown.filter (·.severity = s)
    found .error ++ found .warning ++ found .info = shown
  -- The verdicts agree.
  passed      : (o.reportJson label).get? "passed" = some (.bool true) ↔ o.verify true = .ok ()
  status      : o.verify true = .ok () ↔ o.statusLine = "✓ Status: All checks passed"
  statusLine  :
    let n := countIn shown
    o.statusLine =
      if n .error > 0 then s!"✗ Status: {n .error} error(s), fix these before submitting"
      else if n .warning > 0 then s!"⚠ Status: {n .warning} warning(s), review recommended"
      else "✓ Status: All checks passed"

theorem filter_presented (o : Outcome) (s : Severity) :
    o.presented.filter (·.severity = s) = o.ofSeverity s := by
  have h := filter_mergeSort_key (·.severity.rank) o.diagnostics s.rank
  simp only [Severity.rank_inj] at h
  exact h

theorem countIn_presented (o : Outcome) (s : Severity) : countIn o.presented s = o.count s := by
  rw [countIn, filter_presented, count]

theorem bySeverity_eq (o : Outcome) : o.bySeverity = o.presented := by
  have hm : ∀ d ∈ o.diagnostics, d.severity.rank ∈ Severity.all.map Severity.rank := fun d _ =>
    List.mem_map_of_mem (Severity.mem_all d.severity)
  rw [presented, mergeSort_key_eq Severity.ascending_all hm, List.flatMap_map]
  simp only [Severity.rank_inj]
  rfl

theorem item_eq (s : Severity) (d : Diagnostic) : item s d = linesOf s.symbol d := by
  unfold item linesOf
  cases d.hint with
  | none => exact (String.append_empty).symm
  | some hint => simp only [toString, String.append_assoc]

theorem severitySection_eq (o : Outcome) (s : Severity) :
    o.severitySection s = sectionOf o.presented s s.heading s.symbol := by
  simp only [severitySection, sectionOf, filter_presented, List.isEmpty_iff, funext (item_eq s)]

theorem toJson_eq (d : Diagnostic) : d.toJson = membersOf d := by
  unfold Diagnostic.toJson membersOf
  cases d.severity <;> rfl

theorem scanned_eq (o : Outcome) : o.scanned = originOf o := by
  unfold scanned originOf
  cases o.arrayPath <;> cases o.classFileCount <;>
    simp [String.intercalate_cons_cons, String.intercalate_singleton, toString, String.append_assoc]

theorem report_sections (o : Outcome) :
    String.join (Severity.all.map o.severitySection) =
      sectionOf o.presented .error "Errors" "✗" ++ sectionOf o.presented .warning "Warnings" "⚠" ++
        sectionOf o.presented .info "Info / Suggestions" "ℹ" := by
  rw [funext (severitySection_eq o)]
  simp only [Severity.all, List.map_cons, List.map_nil, String.join_cons, String.join_nil]
  simp only [String.append_empty, String.append_assoc]
  rfl

theorem append_presented (o : Outcome) :
    o.presented.filter (·.severity = .error) ++ o.presented.filter (·.severity = .warning) ++
      o.presented.filter (·.severity = .info) = o.presented := by
  simp only [filter_presented, List.append_assoc]
  calc o.ofSeverity .error ++ (o.ofSeverity .warning ++ o.ofSeverity .info)
    _ = o.bySeverity := by simp [bySeverity, Severity.all]
    _ = o.presented := bySeverity_eq o

theorem total_presented (o : Outcome) :
    countIn o.presented .error + countIn o.presented .warning + countIn o.presented .info =
      o.presented.length := by
  rw [countIn_presented, countIn_presented, countIn_presented, ← bySeverity_eq]
  simp [bySeverity, Severity.all, count, Nat.add_assoc]

theorem statusLine_eq_passed :
    o.statusLine = "✓ Status: All checks passed" ↔ o.errors = 0 ∧ o.warnings = 0 := by
  constructor
  case mp =>
    intro h
    have h := congrArg (fun t : String => t.toList.head?) h
    simp only [statusLine] at h
    split at h
    case isTrue => simp [Severity.symbol, toString] at h
    case isFalse he =>
      split at h
      case isTrue => simp [Severity.symbol, toString] at h
      case isFalse hw => omega
  case mpr =>
    intro ⟨he, hw⟩
    simp [statusLine, he, hw]

theorem report_eq (o : Outcome) (label : String) :
    let n := countIn o.presented
    o.report label =
      s!"VALIDATION REPORT: {label}\n{ruleLine}\n\n{o.statusLine}\n\n" ++
      s!"Scanned {o.stateCount} state definition(s) across {originOf o}\n\n" ++
      sectionOf o.presented .error "Errors" "✗" ++
      sectionOf o.presented .warning "Warnings" "⚠" ++
      sectionOf o.presented .info "Info / Suggestions" "ℹ" ++
      s!"{ruleLine}\nSummary: {n .error} errors, {n .warning} warnings, {n .info} infos, " ++
      s!"{o.stateCount} states checked\n" := by
  intro n
  have hn : n = o.count := funext (countIn_presented o)
  unfold report
  rw [report_sections]
  unfold header summary
  rw [scanned_eq, hn]
  simp only [errors, warnings, infos, String.append_assoc]

theorem reports_agree (o : Outcome) (label : String) : o.Presents label o.presented where
  perm := List.mergeSort_perm ..
  ascending := pairwise_mergeSort_key (·.severity.rank) o.diagnostics
  stable := filter_presented o
  diagnostics := by
    simp [reportJson, Json.get?, Json.member?, bySeverity_eq, funext toJson_eq]
  errors := by simp [reportJson, Json.get?, Json.member?, countIn_presented, errors]
  warnings := by simp [reportJson, Json.get?, Json.member?, countIn_presented, warnings]
  infos := by simp [reportJson, Json.get?, Json.member?, countIn_presented, infos]
  total := total_presented o
  text := report_eq o label
  sections := append_presented o
  passed := by
    have hj : (o.reportJson label).get? "passed" = some (.bool o.passed) := by
      simp [reportJson, Json.get?, Json.member?]
    rw [hj, verify_eq_ok]
    simp [passed]
  status := by
    rw [verify_eq_ok, statusLine_eq_passed]
    simp
  statusLine := by
    rw [funext (countIn_presented o)]
    rfl

end Outcome
end StateLint
