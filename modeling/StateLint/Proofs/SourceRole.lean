import StateLint.Proofs.Outcome

namespace StateLint

open Checks

variable {settings : Settings} {s : Sources} {rules : List Rule} {ds : List Diagnostic}

namespace Rule

def ofServerScripts : List Rule :=
  [unhandledNotification, unsentNotification]

def ofClientScript : List Rule :=
  unknownAction :: uncalledAction :: ofServerScripts

def ofMainScript : List Rule :=
  progressionStub :: ofClientScript

end Rule

def Diagnostic.isBeside (rules : List Rule) (d : Diagnostic) : Bool :=
  d.code ∉ rules.map Rule.code

namespace Outcome

def keeping (p : Diagnostic → Bool) (o : Outcome) : Outcome :=
  { o with diagnostics := o.diagnostics.filter p }

def without (rules : List Rule) : Outcome → Outcome :=
  keeping (·.isBeside rules)

end Outcome

theorem map_keeping_all (r : Except Failure Outcome) : r.map (·.keeping fun _ => true) = r := by
  cases r
  case error => rfl
  case ok => simp [Except.map, Outcome.keeping]

theorem filter_isBeside_of_follows (h : ∀ d ∈ ds, ∃ r ∈ rules, d.Follows r) :
    ds.filter (·.isBeside rules) = [] := by
  apply List.filter_eq_nil_iff.mpr
  intro d hd hb
  have ⟨r, hr, hf⟩ := h d hd
  have hn : d.code ∉ rules.map Rule.code := by simpa [Diagnostic.isBeside] using hb
  exact hn (hf.code ▸ List.mem_map_of_mem hr)

theorem actionFindings_beside {states : List StateDefinition} (hn : .unknownAction ∈ rules)
    (hc : .uncalledAction ∈ rules) :
    (actionFindings s states).filter (·.isBeside rules) = [] := by
  apply filter_isBeside_of_follows
  intro d hd
  cases follows_of_mem_actionFindings hd
  case inl hf => exact ⟨_, hn, hf⟩
  case inr hf => exact ⟨_, hc, hf⟩

theorem notificationFindings_beside (hh : .unhandledNotification ∈ rules)
    (hs : .unsentNotification ∈ rules) :
    (notificationFindings settings s).filter (·.isBeside rules) = [] := by
  apply filter_isBeside_of_follows
  intro d hd
  cases follows_of_mem_notificationFindings hd
  case inl hf => exact ⟨_, hh, hf⟩
  case inr hf => exact ⟨_, hs, hf⟩

theorem progressionFindings_beside (h : .progressionStub ∈ rules) :
    (progressionFindings s).filter (·.isBeside rules) = [] :=
  filter_isBeside_of_follows fun _ hd => ⟨_, h, @follows_of_mem_findingsOf .default s [] _ _ hd⟩

def stateFindings (settings : Settings) (s : Sources) : List Diagnostic :=
  let states := (Model.ofSources s).states
  s.unreadable.map unreadableFile ++ (Model.ofSources s).notes ++ duplicateIds states ++
    brokenTransitions settings states ++ unreachableStates settings states ++
    missingZombies states ++ classNameMismatches states ++ reservedNames settings states

theorem findings_eq :
    findings settings s =
      stateFindings settings s ++ actionFindings s (Model.ofSources s).states ++
        notificationFindings settings s ++ progressionFindings s ++ missingImports s ++
        missingMethods s (Model.ofSources s).states := by
  simp only [findings, stateFindings, battery, List.append_assoc]

theorem lint_eq :
    lint settings s =
      if (Model.ofSources s).states = [] then .error (.noStates s.stateLocations)
        else .ok (outcomeOf settings s) := by
  split
  case isTrue h => exact lint_eq_error.mpr ⟨h, rfl⟩
  case isFalse h => exact lint_eq_ok.mpr ⟨h, rfl⟩

structure Sources.SameStates (s t : Sources) : Prop where
  stateArray     : s.stateArray = t.stateArray
  stateClasses   : s.stateClasses = t.stateClasses
  classDirectory : s.classDirectory = t.classDirectory
  unreadable     : s.unreadable = t.unreadable

namespace Sources.SameStates

variable {t : Sources} (h : s.SameStates t)
include h

theorem model : Model.ofSources s = Model.ofSources t := by
  simp only [Model.ofSources, h.stateArray, h.stateClasses]

theorem stateLocations : s.stateLocations = t.stateLocations := by
  simp only [Sources.stateLocations, h.stateArray, h.stateClasses, h.classDirectory]

theorem stateFindings :
    StateLint.stateFindings settings s = StateLint.stateFindings settings t := by
  simp only [StateLint.stateFindings, h.model, h.unreadable]

theorem missingImports : Checks.missingImports s = Checks.missingImports t := by
  simp only [Checks.missingImports, h.stateClasses]

theorem missingMethods (states : List StateDefinition) :
    Checks.missingMethods s states = Checks.missingMethods t states := by
  simp only [Checks.missingMethods, Sources.stateClass?, h.stateClasses]

theorem lint_keeping_eq {p : Diagnostic → Bool}
    (ha : ∀ states, (actionFindings s states).filter p = (actionFindings t states).filter p)
    (hn : (notificationFindings settings s).filter p = (notificationFindings settings t).filter p)
    (hp : (progressionFindings s).filter p = (progressionFindings t).filter p) :
    (lint settings s).map (·.keeping p) = (lint settings t).map (·.keeping p) := by
  have hf : (findings settings s).filter p = (findings settings t).filter p := by
    simp only [findings_eq, List.filter_append, ha, hn, hp, h.model, h.stateFindings,
      h.missingImports, h.missingMethods]
  have ho : (outcomeOf settings s).keeping p = (outcomeOf settings t).keeping p := by
    simp only [Outcome.keeping, filter_diagnostics, hf]
    simp only [outcomeOf, h.model, h.stateArray, h.stateClasses]
  rw [lint_eq, lint_eq, h.model, h.stateLocations]
  split
  case isTrue => rfl
  case isFalse => exact congrArg Except.ok ho

end Sources.SameStates

theorem lint_serverScripts_agnostic (scripts : List SourceFile) :
    (lint settings { s with serverScripts := scripts }).map (·.without Rule.ofServerScripts) =
      (lint settings s).map (·.without Rule.ofServerScripts) := by
  have h : Sources.SameStates { s with serverScripts := scripts } s := ⟨rfl, rfl, rfl, rfl⟩
  apply h.lint_keeping_eq
  case ha => exact fun _ => rfl
  case hn =>
    rw [notificationFindings_beside (by decide) (by decide),
      notificationFindings_beside (by decide) (by decide)]
  case hp => rfl

theorem notificationFindings_of_no_client (hc : s.clientScript = none) :
    notificationFindings settings s = [] := by
  simp [notificationFindings, hc]

-- Without a client script the other scripts of the server are not compared with anything.
theorem lint_serverScripts_agnostic_of_none (scripts : List SourceFile)
    (hc : s.clientScript = none) :
    lint settings { s with serverScripts := scripts } = lint settings s := by
  have h : Sources.SameStates { s with serverScripts := scripts } s := ⟨rfl, rfl, rfl, rfl⟩
  rw [← map_keeping_all (lint settings { s with serverScripts := scripts }),
    ← map_keeping_all (lint settings s)]
  apply h.lint_keeping_eq
  case ha => exact fun _ => rfl
  case hn =>
    have hn : notificationFindings settings { s with serverScripts := scripts } = [] :=
      notificationFindings_of_no_client hc
    rw [hn, notificationFindings_of_no_client hc]
  case hp => rfl

theorem lint_clientScript_agnostic (client : Option SourceFile) :
    (lint settings { s with clientScript := client }).map (·.without Rule.ofClientScript) =
      (lint settings s).map (·.without Rule.ofClientScript) := by
  have h : Sources.SameStates { s with clientScript := client } s := ⟨rfl, rfl, rfl, rfl⟩
  apply h.lint_keeping_eq
  case ha =>
    intro states
    rw [actionFindings_beside (by decide) (by decide),
      actionFindings_beside (by decide) (by decide)]
  case hn =>
    rw [notificationFindings_beside (by decide) (by decide),
      notificationFindings_beside (by decide) (by decide)]
  case hp => rfl

theorem lint_mainScript_agnostic (main : Option SourceFile) :
    (lint settings { s with mainScript := main }).map (·.without Rule.ofMainScript) =
      (lint settings s).map (·.without Rule.ofMainScript) := by
  have h : Sources.SameStates { s with mainScript := main } s := ⟨rfl, rfl, rfl, rfl⟩
  apply h.lint_keeping_eq
  case ha =>
    intro states
    rw [actionFindings_beside (by decide) (by decide),
      actionFindings_beside (by decide) (by decide)]
  case hn =>
    rw [notificationFindings_beside (by decide) (by decide),
      notificationFindings_beside (by decide) (by decide)]
  case hp => rw [progressionFindings_beside (by decide), progressionFindings_beside (by decide)]

def Settings.withAllRules (t : Settings) : Settings :=
  { t with disabledRules := [] }

theorem findings_withAllRules : findings settings.withAllRules s = findings settings s :=
  rfl

theorem lint_eq_keeping_enabled :
    lint settings s =
      (lint settings.withAllRules s).map (·.keeping (settings.isEnabled ·.code)) := by
  have ho : outcomeOf settings s =
      (outcomeOf settings.withAllRules s).keeping (settings.isEnabled ·.code) := by
    simp only [outcomeOf, Outcome.keeping, findings_withAllRules,
      @isEnabled_of_nil settings.withAllRules rfl, List.filter_true]
  rw [lint_eq, lint_eq]
  split
  case isTrue => rfl
  case isFalse => exact congrArg Except.ok ho

theorem isEnabled_withDisabledRule (code c : String) :
    (settings.withDisabledRule code).isEnabled c =
      (settings.isEnabled c && Text.asciiLower code.toList != Text.asciiLower c.toList) := by
  simp [Settings.isEnabled, Settings.withDisabledRule]

-- One more rule that is switched off hides the findings of its code, whatever the case of that, and
-- no other.
theorem lint_withDisabledRule (code : String) :
    lint (settings.withDisabledRule code) s =
      (lint settings s).map (·.keeping fun d =>
        Text.asciiLower code.toList != Text.asciiLower d.code.toList) := by
  rw [lint_eq_keeping_enabled, @lint_eq_keeping_enabled settings]
  show (lint settings.withAllRules s).map _ = _
  cases lint settings.withAllRules s
  case error => rfl
  case ok o =>
    simp [Except.map, Outcome.keeping, isEnabled_withDisabledRule, List.filter_filter,
      Bool.and_comm]

-- A script changes no findings but those of its own rules, and a rule that is switched off takes
-- its own findings away. All else stays as it is and where it is; in particular there is an outcome
-- as before, or the failure of before.
theorem lint_parts_agnostic (settings : Settings) (s : Sources) :
    (∀ scripts,
      (lint settings { s with serverScripts := scripts }).map (·.without Rule.ofServerScripts) =
          (lint settings s).map (·.without Rule.ofServerScripts) ∧
        (s.clientScript = none →
          lint settings { s with serverScripts := scripts } = lint settings s)) ∧
    (∀ client,
      (lint settings { s with clientScript := client }).map (·.without Rule.ofClientScript) =
        (lint settings s).map (·.without Rule.ofClientScript)) ∧
    (∀ main,
      (lint settings { s with mainScript := main }).map (·.without Rule.ofMainScript) =
        (lint settings s).map (·.without Rule.ofMainScript)) ∧
    (∀ codes, let other := { settings with disabledRules := codes }
      ((∃ o, lint other s = .ok o) ↔ ∃ o, lint settings s = .ok o) ∧
        lint other s = (lint settings.withAllRules s).map (·.keeping (other.isEnabled ·.code))) ∧
    ∀ code, lint (settings.withDisabledRule code) s =
      (lint settings s).map (·.keeping fun d =>
        Text.asciiLower code.toList != Text.asciiLower d.code.toList) := by
  refine ⟨fun scripts => ⟨lint_serverScripts_agnostic scripts,
    lint_serverScripts_agnostic_of_none scripts⟩, lint_clientScript_agnostic,
    lint_mainScript_agnostic, fun codes => ⟨?_, lint_eq_keeping_enabled⟩, lint_withDisabledRule⟩
  rw [exists_lint_eq_ok, exists_lint_eq_ok]

def bareGame : Sources :=
  Sources.empty.withStateClass "Turn.php"
    "class Turn extends GameState { id: 2, type: StateType::GAME }"

def sendingScript : SourceFile :=
  ⟨"util.inc.php", "notifyAllPlayers('moved'"⟩

theorem bareGame_agnostic :
    bareGame.clientScript = none ∧
      lint .default { bareGame with serverScripts := [sendingScript] } = lint .default bareGame ∧
        (lint .default bareGame).toOption.isSome :=
  ⟨rfl, ((lint_parts_agnostic .default bareGame).left [sendingScript]).right rfl, by decide⟩

end StateLint
