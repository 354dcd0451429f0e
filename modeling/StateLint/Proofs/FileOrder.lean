import StateLint.Proofs.Checks.FileOrder
import StateLint.Proofs.Outcome

namespace StateLint

open Checks

variable {settings : Settings} {s t : Sources} {o p : Outcome}

def plainFindings (settings : Settings) (sources : Sources) : List Diagnostic :=
  sources.unreadable.map unreadableFile ++ (Model.ofSources sources).notes ++
    otherFindings settings sources (Model.ofSources sources).states

theorem filter_findings_other :
    (findings settings s).filter (·.code ≠ Rule.duplicateId.code) =
      (plainFindings settings s).filter (·.code ≠ Rule.duplicateId.code) := by
  have hd :
      (duplicateIds (Model.ofSources s).states).filter (·.code ≠ Rule.duplicateId.code) = [] := by
    apply List.filter_eq_nil_iff.mpr
    intro d hd
    simp [(follows_of_mem_duplicateIds hd).code]
  simp only [findings, plainFindings, battery_eq, List.filter_append, hd, List.nil_append]

theorem diagnostics_duplicate :
    (outcomeOf settings s).diagnostics.filter (·.code = Rule.duplicateId.code) =
      if settings.isEnabled Rule.duplicateId.code then duplicateIds (Model.ofSources s).states
        else [] := by
  rw [filter_diagnostics, filter_findings (by decide) (by decide)]
  split
  case isTrue he =>
    exact List.filter_eq_self.mpr fun d hd => (follows_of_mem_duplicateIds hd).code ▸ he
  case isFalse he =>
    exact List.filter_eq_nil_iff.mpr fun d hd => (follows_of_mem_duplicateIds hd).code ▸ he

theorem diagnostics_reportsDuplicate (id : UInt32) :
    (outcomeOf settings s).diagnostics.filter (ReportsDuplicate id) =
      if settings.isEnabled Rule.duplicateId.code ∧
        1 < (locationsOf (Model.ofSources s).states id).length then
        [duplicateId id (locationsOf (Model.ofSources s).states id)]
      else [] := by
  have hf : (outcomeOf settings s).diagnostics.filter (ReportsDuplicate id) =
      ((outcomeOf settings s).diagnostics.filter (·.code = Rule.duplicateId.code)).filter
        (ReportsDuplicate id) := by
    rw [List.filter_filter]
    apply List.filter_congr
    intro d _
    simp +contextual [ReportsDuplicate]
  rw [hf, diagnostics_duplicate]
  split
  case isTrue he => simp [he, filter_duplicateIds]
  case isFalse he => simp [he]

section

variable (h : s.Reordered t) (hd : (s.stateClasses.map (·.path)).Nodup)
include h hd

theorem plainFindings_perm : (plainFindings settings s).Perm (plainFindings settings t) := by
  apply List.Perm.append
  case p₁ => exact (h.unreadable ▸ h.notes.append_left _)
  case p₂ => exact otherFindings_perm h.states h hd

theorem diagnostics_other_perm :
    ((outcomeOf settings s).diagnostics.filter (·.code ≠ Rule.duplicateId.code)).Perm
      ((outcomeOf settings t).diagnostics.filter (·.code ≠ Rule.duplicateId.code)) := by
  rw [filter_diagnostics, filter_diagnostics, filter_findings_other, filter_findings_other]
  exact ((plainFindings_perm h hd).filter _).filter _

theorem severities_perm :
    ((outcomeOf settings s).diagnostics.map (·.severity)).Perm
      ((outcomeOf settings t).diagnostics.map (·.severity)) := by
  have split (u : Sources) :=
    (List.filter_append_perm (fun d : Diagnostic => d.code = Rule.duplicateId.code)
    (outcomeOf settings u).diagnostics).map (·.severity)
  apply (split s).symm.trans
  apply List.Perm.trans ?_ (split t)
  rw [List.map_append, List.map_append]
  apply List.Perm.append
  case p₁ =>
    rw [diagnostics_duplicate, diagnostics_duplicate]
    by_cases he : settings.isEnabled Rule.duplicateId.code
    case pos =>
      simp only [he, if_true, duplicateIds_eq, List.map_map]
      exact (duplicatedIds_perm h.states).map _
    case neg => simp [he]
  case p₂ => simpa using (diagnostics_other_perm h hd).map (·.severity)

end

-- A game whose files come in another order has the same findings but for those on duplicate ids. Of
-- those, unless the settings switch them off, there is one on each id that is declared more than
-- once, about the same places. So the game passes or fails as before.
theorem lint_reordered (settings : Settings) (h : s.Reordered t)
    (hd : (s.stateClasses.map (·.path)).Nodup) :
    ((∃ o, lint settings s = .ok o) ↔ ∃ p, lint settings t = .ok p) ∧
    ∀ o p, lint settings s = .ok o → lint settings t = .ok p →
      (o.diagnostics.filter (·.code ≠ "STATE001")).Perm
        (p.diagnostics.filter (·.code ≠ "STATE001")) ∧
      (∀ id, 1 < (locationsOf (Model.ofSources s).states id).length →
        (locationsOf (Model.ofSources s).states id).Perm
          (locationsOf (Model.ofSources t).states id) ∧
        o.diagnostics.filter (ReportsDuplicate id) =
          (if settings.isEnabled "STATE001"
            then [duplicateId id (locationsOf (Model.ofSources s).states id)] else []) ∧
        p.diagnostics.filter (ReportsDuplicate id) =
          if settings.isEnabled "STATE001"
            then [duplicateId id (locationsOf (Model.ofSources t).states id)] else []) ∧
      o.stateCount = p.stateCount ∧ (∀ severity, o.count severity = p.count severity) ∧
        o.passed = p.passed ∧ ∀ strict, o.verify strict = p.verify strict := by
  constructor
  case left =>
    rw [exists_lint_eq_ok, exists_lint_eq_ok, ← List.length_pos_iff, ← List.length_pos_iff,
      h.states.length_eq]
  case right =>
    intro o p ho hp
    have ⟨_, ho⟩ := lint_eq_ok.mp ho
    have ⟨_, hp⟩ := lint_eq_ok.mp hp
    rw [← ho, ← hp]
    have hc := Outcome.count_eq_of_perm (@severities_perm settings _ _ h hd)
    refine ⟨diagnostics_other_perm h hd, ?_, h.states.length_eq, hc, Outcome.passed_eq_of_count hc,
      Outcome.verify_eq_of_count hc⟩
    intro id hm
    have hl := locationsOf_perm h.states id
    have hm' : 1 < (locationsOf (Model.ofSources t).states id).length := hl.length_eq ▸ hm
    refine ⟨hl, ?_, ?_⟩
    · rw [diagnostics_reportsDuplicate]
      simp [hm, Rule.code]
    · rw [diagnostics_reportsDuplicate]
      simp [hm', Rule.code]

def twinClass (name : String) : SourceFile :=
  ⟨name ++ ".php", "class " ++ name ++ " extends GameState \x7b id: 5, type: StateType::GAME"⟩

def twinGame (first second : String) : Sources :=
  { Sources.empty with stateClasses := [twinClass first, twinClass second] }

theorem twinGame_locations :
    locationsOf (Model.ofSources (twinGame "A" "B")).states 5 = ["A.php", "B.php"] := by
  decide +kernel

theorem exists_lint_twinGame (settings : Settings) :
    ∃ o, lint settings (twinGame "A" "B") = .ok o := by
  apply exists_lint_eq_ok.mpr
  intro h
  have hl := twinGame_locations
  rw [h] at hl
  contradiction

theorem twinGame_reordered :
    ∃ o p, lint .default (twinGame "A" "B") = .ok o ∧ lint .default (twinGame "B" "A") = .ok p ∧
      o.diagnostics.filter (ReportsDuplicate 5) = [duplicateId 5 ["A.php", "B.php"]] ∧
        p.diagnostics.filter (ReportsDuplicate 5) = [duplicateId 5 ["B.php", "A.php"]] := by
  have h : (twinGame "A" "B").Reordered (twinGame "B" "A") :=
    ⟨.swap .., .nil, rfl, rfl, rfl, rfl, rfl⟩
  have hd : ((twinGame "A" "B").stateClasses.map (·.path)).Nodup := by decide
  have ⟨hi, hr⟩ := lint_reordered .default h hd
  have ⟨o, ho⟩ := exists_lint_twinGame .default
  have ⟨p, hp⟩ := hi.mp ⟨o, ho⟩
  have hl : locationsOf (Model.ofSources (twinGame "B" "A")).states 5 = ["B.php", "A.php"] := by
    decide +kernel
  have ⟨_, hs, ht⟩ := (hr o p ho hp).right.left 5 (by rw [twinGame_locations]; decide)
  rw [twinGame_locations] at hs
  rw [hl] at ht
  exact ⟨o, p, ho, hp, hs, ht⟩

-- Settings may switch the findings on duplicate ids off. Then there is none, though an id is
-- declared twice.
theorem twinGame_unreported :
    ∃ o, lint (Settings.default.withDisabledRule "STATE001") (twinGame "A" "B") = .ok o ∧
      locationsOf (Model.ofSources (twinGame "A" "B")).states 5 = ["A.php", "B.php"] ∧
        ∀ d ∈ o.diagnostics, d.code ≠ "STATE001" := by
  have ⟨o, ho⟩ := exists_lint_twinGame (Settings.default.withDisabledRule "STATE001")
  refine ⟨o, ho, twinGame_locations, ?_⟩
  have ⟨_, he⟩ := lint_eq_ok.mp ho
  have hn : o.diagnostics.filter (·.code = Rule.duplicateId.code) = [] := by
    rw [← he, diagnostics_duplicate]
    exact if_neg (by decide)
  intro d hd hc
  exact List.filter_eq_nil_iff.mp hn d hd (decide_eq_true hc)

end StateLint
