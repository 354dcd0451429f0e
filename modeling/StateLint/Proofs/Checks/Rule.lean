import StateLint.Proofs.Checks.Membership

namespace StateLint

theorem Rule.code_inj {r q : Rule} : r.code = q.code ↔ r = q := by
  cases r <;> cases q <;> decide

structure Diagnostic.Follows (d : Diagnostic) (r : Rule) : Prop where
  code     : d.code = r.code
  severity : d.severity = r.severity

theorem Diagnostic.Follows.unique {d : Diagnostic} {r q : Rule} (hr : d.Follows r)
    (hq : d.code = q.code) : r = q :=
  Rule.code_inj.mp (hr.code.symm.trans hq)

namespace Checks

variable {settings : Settings} {sources : Sources} {states : List StateDefinition} {d : Diagnostic}

theorem follows_of_mem_actionFindings (h : d ∈ actionFindings sources states) :
    d.Follows .unknownAction ∨ d.Follows .uncalledAction := by
  have ⟨_, _, hd⟩ := mem_actionFindings.mp h
  cases hd
  case inl hd =>
    have ⟨_, _, _, hd⟩ := hd
    exact .inl (hd ▸ ⟨rfl, rfl⟩)
  case inr hd =>
    have ⟨_, _, _, _, hd⟩ := hd
    exact .inr (hd ▸ ⟨rfl, rfl⟩)

theorem follows_of_mem_notificationFindings (h : d ∈ notificationFindings settings sources) :
    d.Follows .unhandledNotification ∨ d.Follows .unsentNotification := by
  have ⟨_, _, hd⟩ := mem_notificationFindings.mp h
  cases hd
  case inl hd =>
    have ⟨_, _, _, _, hd⟩ := hd
    exact .inl (hd ▸ ⟨rfl, rfl⟩)
  case inr hd =>
    have ⟨_, _, _, hd⟩ := hd
    exact .inr (hd ▸ ⟨rfl, rfl⟩)

def findingsOf (settings : Settings) (sources : Sources) (states : List StateDefinition) :
    Rule → List Diagnostic
  | .unreadableFile | .unknownClass => []
  | .duplicateId => duplicateIds states
  | .brokenTransition => brokenTransitions settings states
  | .unreachableState => unreachableStates settings states
  | .missingZombie => missingZombies states
  | .classNameMismatch => classNameMismatches states
  | .reservedName => reservedNames settings states
  | .missingImport => missingImports sources
  | .missingMethod => missingMethods sources states
  | .unknownAction => (actionFindings sources states).filter (·.code = Rule.unknownAction.code)
  | .uncalledAction => (actionFindings sources states).filter (·.code = Rule.uncalledAction.code)
  | .unhandledNotification =>
    (notificationFindings settings sources).filter (·.code = Rule.unhandledNotification.code)
  | .unsentNotification =>
    (notificationFindings settings sources).filter (·.code = Rule.unsentNotification.code)
  | .progressionStub => progressionFindings sources

theorem follows_of_mem_findingsOf {r : Rule} (h : d ∈ findingsOf settings sources states r) :
    d.Follows r := by
  cases r
  case unreadableFile | unknownClass => simp [findingsOf] at h
  case unknownAction | uncalledAction =>
    have ⟨hm, hc⟩ := List.mem_filter.mp h
    cases follows_of_mem_actionFindings hm <;> rename_i hf <;>
      exact hf.unique (by simpa using hc) ▸ hf
  case unhandledNotification | unsentNotification =>
    have ⟨hm, hc⟩ := List.mem_filter.mp h
    cases follows_of_mem_notificationFindings hm <;> rename_i hf <;>
      exact hf.unique (by simpa using hc) ▸ hf
  case duplicateId =>
    have ⟨_, _, hd⟩ := mem_duplicateIds.mp h
    exact hd ▸ ⟨rfl, rfl⟩
  case brokenTransition =>
    have ⟨_, _, _, _, _, _, hd⟩ := mem_brokenTransitions.mp h
    exact hd ▸ ⟨rfl, rfl⟩
  case unreachableState =>
    have ⟨_, _, _, _, hd⟩ := mem_unreachableStates.mp h
    exact hd ▸ ⟨rfl, rfl⟩
  case missingZombie =>
    have ⟨_, _, _, _, _, hd⟩ := mem_missingZombies.mp h
    exact hd ▸ ⟨rfl, rfl⟩
  case classNameMismatch =>
    have ⟨_, _, _, _, _, _, hd⟩ := mem_classNameMismatches.mp h
    exact hd ▸ ⟨rfl, rfl⟩
  case reservedName =>
    have ⟨_, _, _, hd⟩ := mem_reservedNames.mp h
    cases hd
    case inl hd => exact hd.right.right ▸ ⟨rfl, rfl⟩
    case inr hd => exact hd.right.right ▸ ⟨rfl, rfl⟩
  case missingImport =>
    have ⟨_, _, _, _, hd⟩ := mem_missingImports.mp h
    exact hd ▸ ⟨rfl, rfl⟩
  case missingMethod =>
    have ⟨_, _, _, _, _, _, _, _, hd⟩ := mem_missingMethods.mp h
    exact hd ▸ ⟨rfl, rfl⟩
  case progressionStub =>
    have ⟨_, _, _, hd⟩ := mem_progressionFindings.mp h
    exact hd ▸ ⟨rfl, rfl⟩

theorem mem_unknownActions :
    d ∈ findingsOf settings sources states .unknownAction ↔
      ∃ client, sources.clientScript = some client ∧
        ∃ name ∈ ClientScript.calledActions client.text,
        ¬Handled sources states (Action.normalName name) ∧ unknownAction client name = d := by
  simp only [findingsOf, List.mem_filter, mem_actionFindings, decide_eq_true_eq]
  constructor
  case mp =>
    intro ⟨⟨client, hc, hd⟩, hcode⟩
    cases hd
    case inl hd => exact ⟨client, hc, hd⟩
    case inr hd =>
      have ⟨_, _, _, _, hd⟩ := hd
      have hf : d.Follows .uncalledAction := hd ▸ ⟨rfl, rfl⟩
      exact absurd (hf.unique hcode) (by decide)
  case mpr =>
    rintro ⟨client, hc, name, hm, hn, rfl⟩
    exact ⟨⟨client, hc, .inl ⟨name, hm, hn, rfl⟩⟩, rfl⟩

theorem mem_unhandledNotifications :
    d ∈ findingsOf settings sources states .unhandledNotification ↔
      ∃ client, sources.clientScript = some client ∧ ∃ name, Sent sources name ∧
        ¬settings.isBuiltin name ∧ name ∉ ClientScript.handledNotifications client.text ∧
        unhandledNotification client name = d := by
  simp only [findingsOf, List.mem_filter, mem_notificationFindings, decide_eq_true_eq]
  constructor
  case mp =>
    intro ⟨⟨client, hc, hd⟩, hcode⟩
    cases hd
    case inl hd => exact ⟨client, hc, hd⟩
    case inr hd =>
      have ⟨_, _, _, hd⟩ := hd
      have hf : d.Follows .unsentNotification := hd ▸ ⟨rfl, rfl⟩
      exact absurd (hf.unique hcode) (by decide)
  case mpr =>
    rintro ⟨client, hc, name, hs, hb, hn, rfl⟩
    exact ⟨⟨client, hc, .inl ⟨name, hs, hb, hn, rfl⟩⟩, rfl⟩

theorem mem_battery :
    d ∈ battery settings sources states ↔ ∃ r, d ∈ findingsOf settings sources states r := by
  constructor
  case mp =>
    intro h
    simp only [battery, List.mem_append] at h
    rcases h with (((((((((h | h) | h) | h) | h) | h) | h) | h) | h) | h) | h
    · exact ⟨.duplicateId, h⟩
    · exact ⟨.brokenTransition, h⟩
    · exact ⟨.unreachableState, h⟩
    · exact ⟨.missingZombie, h⟩
    · exact ⟨.classNameMismatch, h⟩
    · exact ⟨.reservedName, h⟩
    · cases follows_of_mem_actionFindings h
      case inl hf => exact ⟨.unknownAction, List.mem_filter.mpr ⟨h, by simpa using hf.code⟩⟩
      case inr hf => exact ⟨.uncalledAction, List.mem_filter.mpr ⟨h, by simpa using hf.code⟩⟩
    · cases follows_of_mem_notificationFindings h
      case inl hf => exact ⟨.unhandledNotification, List.mem_filter.mpr ⟨h, by simpa using hf.code⟩⟩
      case inr hf => exact ⟨.unsentNotification, List.mem_filter.mpr ⟨h, by simpa using hf.code⟩⟩
    · exact ⟨.progressionStub, h⟩
    · exact ⟨.missingImport, h⟩
    · exact ⟨.missingMethod, h⟩
  case mpr =>
    intro ⟨r, h⟩
    cases r <;> simp_all [battery, findingsOf]

theorem mem_battery_iff_of_code {r : Rule} (h : d.code = r.code) :
    d ∈ battery settings sources states ↔ d ∈ findingsOf settings sources states r := by
  constructor
  case mp =>
    intro hd
    have ⟨q, hq⟩ := mem_battery.mp hd
    exact (follows_of_mem_findingsOf hq).unique h ▸ hq
  case mpr => exact fun hd => mem_battery.mpr ⟨r, hd⟩

theorem filter_eq_nil_of_follows {r : Rule} {ds : List Diagnostic}
    (h : ∀ d ∈ ds, ∃ q, d.Follows q ∧ q ≠ r) :
    ds.filter (·.code = r.code) = [] := by
  refine List.filter_eq_nil_iff.mpr fun d hd hc => ?_
  have ⟨q, hf, hq⟩ := h d hd
  exact hq (hf.unique (by simpa using hc))

theorem filter_findingsOf (q r : Rule) :
    (findingsOf settings sources states q).filter (·.code = r.code) =
      if q = r then findingsOf settings sources states q else [] := by
  split
  case isTrue h =>
    refine List.filter_eq_self.mpr fun d hd => ?_
    simpa [h] using (follows_of_mem_findingsOf hd).code
  case isFalse h => exact filter_eq_nil_of_follows fun d hd => ⟨q, follows_of_mem_findingsOf hd, h⟩

variable (settings) in
theorem filter_actionFindings (r : Rule) :
    (actionFindings sources states).filter (·.code = r.code) =
      if r = .unknownAction ∨ r = .uncalledAction then findingsOf settings sources states r
        else [] := by
  split
  case isTrue h => cases h <;> subst r <;> rfl
  case isFalse h =>
    have ⟨h₁, h₂⟩ := not_or.mp h
    refine filter_eq_nil_of_follows fun d hd => ?_
    exact (follows_of_mem_actionFindings hd).elim (⟨_, ·, Ne.symm h₁⟩) (⟨_, ·, Ne.symm h₂⟩)

variable (states) in
theorem filter_notificationFindings (r : Rule) :
    (notificationFindings settings sources).filter (·.code = r.code) =
      if r = .unhandledNotification ∨ r = .unsentNotification
        then findingsOf settings sources states r else [] := by
  split
  case isTrue h => cases h <;> subst r <;> rfl
  case isFalse h =>
    have ⟨h₁, h₂⟩ := not_or.mp h
    refine filter_eq_nil_of_follows fun d hd => ?_
    exact (follows_of_mem_notificationFindings hd).elim (⟨_, ·, Ne.symm h₁⟩) (⟨_, ·, Ne.symm h₂⟩)

theorem filter_battery (r : Rule) :
    (battery settings sources states).filter (·.code = r.code) =
      findingsOf settings sources states r := by
  let of := findingsOf settings sources states
  have hb : battery settings sources states =
      of .duplicateId ++ of .brokenTransition ++ of .unreachableState ++ of .missingZombie ++
        of .classNameMismatch ++ of .reservedName ++ actionFindings sources states ++
        notificationFindings settings sources ++ of .progressionStub ++ of .missingImport ++
        of .missingMethod := rfl
  simp only [hb, of, List.filter_append, filter_findingsOf, filter_notificationFindings states,
    filter_actionFindings settings]
  cases r <;> simp [findingsOf]

end Checks
end StateLint
