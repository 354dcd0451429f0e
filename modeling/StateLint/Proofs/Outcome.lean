import StateLint.Outcome
import StateLint.Proofs.Checks.Rule
import StateLint.Proofs.Model

namespace StateLint

variable {settings : Settings} {sources : Sources} {d : Diagnostic} {o : Outcome}

def outcomeOf (settings : Settings) (sources : Sources) : Outcome where
  diagnostics := (findings settings sources).filter (settings.isEnabled ·.code)
  stateCount := (Model.ofSources sources).states.length
  arrayPath := sources.stateArray.map (·.path)
  classFileCount := sources.stateClasses.length

theorem lint_eq_ok :
    lint settings sources = .ok o ↔ (Model.ofSources sources).states ≠ [] ∧
      outcomeOf settings sources = o := by
  simp only [lint, List.isEmpty_iff]
  by_cases h : (Model.ofSources sources).states = []
  case pos => simp [h, throw, throwThe, MonadExceptOf.throw]
  case neg =>
    rw [if_neg h]
    show Except.ok (outcomeOf settings sources) = _ ↔ _
    simp [h]

theorem exists_lint_eq_ok :
    (∃ o, lint settings sources = .ok o) ↔ (Model.ofSources sources).states ≠ [] := by
  simp only [lint_eq_ok, exists_and_left, exists_eq', and_true]

theorem lint_eq_error {e : Failure} :
    lint settings sources = .error e ↔
      (Model.ofSources sources).states = [] ∧ .noStates sources.stateLocations = e := by
  simp only [lint, List.isEmpty_iff]
  by_cases h : (Model.ofSources sources).states = []
  case pos => simp [h, throw, throwThe, MonadExceptOf.throw]
  case neg => simp [h, pure, Except.pure]

theorem mem_diagnostics :
    d ∈ (outcomeOf settings sources).diagnostics ↔ d ∈ findings settings sources ∧
      settings.isEnabled d.code := by
  simp [outcomeOf]

theorem mem_findings :
    d ∈ findings settings sources ↔
      (∃ f ∈ sources.unreadable, unreadableFile f = d) ∨ d ∈ (Model.ofSources sources).notes ∨
        d ∈ Checks.battery settings sources (Model.ofSources sources).states := by
  simp [findings]

-- The findings of a rule stand where the rule is checked, in their order. Two rules are not about
-- states: they tell of files that were not read and of files that are no state classes.
theorem filter_findings {r : Rule} (hu : r ≠ .unreadableFile) (hc : r ≠ .unknownClass) :
    (findings settings sources).filter (·.code = r.code) =
      Checks.findingsOf settings sources (Model.ofSources sources).states r := by
  have hn : (sources.unreadable.map unreadableFile ++ (Model.ofSources sources).notes).filter
      (·.code = r.code) = [] := by
    apply Checks.filter_eq_nil_of_follows
    intro d hd
    cases List.mem_append.mp hd
    case inl hd =>
      have ⟨_, _, hd⟩ := List.mem_map.mp hd
      exact ⟨.unreadableFile, hd ▸ ⟨rfl, rfl⟩, hu.symm⟩
    case inr hd =>
      have ⟨_, _, hd⟩ := List.mem_map.mp hd
      exact ⟨.unknownClass, hd ▸ ⟨rfl, rfl⟩, hc.symm⟩
  simp only [findings, List.filter_append] at hn ⊢
  rw [hn, List.nil_append, Checks.filter_battery]

theorem mem_findings_iff_of_code {r : Rule} (hu : r ≠ .unreadableFile) (hc : r ≠ .unknownClass)
    (h : d.code = r.code) :
    d ∈ findings settings sources ↔
      d ∈ Checks.findingsOf settings sources (Model.ofSources sources).states r := by
  rw [← filter_findings hu hc, List.mem_filter]
  simp [h]

theorem filter_diagnostics (q : Diagnostic → Bool) :
    (outcomeOf settings sources).diagnostics.filter q =
      ((findings settings sources).filter q).filter (settings.isEnabled ·.code) := by
  rw [outcomeOf, List.filter_comm]

theorem isEnabled_of_nil (h : settings.disabledRules = []) (code : String) :
    settings.isEnabled code := by
  simp [Settings.isEnabled, h]

namespace Outcome

variable {p : Outcome}

theorem passed_iff : o.passed ↔ ∀ d ∈ o.diagnostics, d.severity = .info := by
  simp only [passed, errors, warnings, count, ofSeverity, Bool.and_eq_true, decide_eq_true_eq,
    List.length_eq_zero_iff, List.filter_eq_nil_iff]
  constructor
  case mp =>
    intro ⟨he, hw⟩ d hd
    cases h : d.severity
    case info => rfl
    case error => exact absurd h (he d hd)
    case warning => exact absurd h (hw d hd)
  case mpr =>
    intro h
    exact ⟨fun d hd => by simp [h d hd], fun d hd => by simp [h d hd]⟩

theorem count_eq_of_perm
    (h : (o.diagnostics.map (·.severity)).Perm (p.diagnostics.map (·.severity)))
    (severity : Severity) : o.count severity = p.count severity := by
  have hc (q : Outcome) : q.count severity =
      ((q.diagnostics.map (·.severity)).filter (· = severity)).length := by
    rw [count, ofSeverity, List.filter_map, List.length_map]
    rfl
  rw [hc, hc, (h.filter _).length_eq]

theorem verify_eq_ok {strict : Bool} {u : Unit} :
    o.verify strict = .ok u ↔ o.errors = 0 ∧ (strict → o.warnings = 0) := by
  have hc : (o.errors > 0 || (strict && o.warnings > 0)) = false ↔
      o.errors = 0 ∧ (strict → o.warnings = 0) := by
    simp
  rw [← hc, verify]
  cases h : decide (o.errors > 0) || (strict && decide (o.warnings > 0)) <;>
    simp [throw, throwThe, MonadExceptOf.throw, pure, Except.pure]

theorem verify_eq_of_count (h : ∀ severity, o.count severity = p.count severity) (strict : Bool) :
    o.verify strict = p.verify strict := by
  unfold verify errors warnings
  rw [h .error, h .warning]

theorem passed_eq_of_count (h : ∀ severity, o.count severity = p.count severity) :
    o.passed = p.passed := by
  unfold passed errors warnings
  rw [h .error, h .warning]

end Outcome
end StateLint
