import Mathlib.Data.List.Nodup
import StateLint.Proofs.Outcome

namespace StateLint

open Checks

structure Clean (settings : Settings) (sources : Sources) (states : List StateDefinition) :
    Prop where
  hasStates     : states ≠ []
  readable      : sources.unreadable = []
  uniqueIds     : (states.map (·.id)).Nodup
  targets       : ∀ s ∈ states, ∀ label target, s.transitions.get? label = some target →
    Declared states target ∨ settings.isReserved target
  reached       : ∀ s ∈ states, ¬settings.isReserved s.id → Targeted states s.id
  zombies       : ∀ s ∈ states, s.layout = .stateClass →
    s.kind = .singlePlayer ∨ s.kind = .multiPlayer → s.hasZombie
  classNames    : ∀ s ∈ states, s.layout = .stateClass → s.className = some (baseName s.location)
  setupName     : ∀ s ∈ states, s.layout = .stateArray → s.id = settings.initialId →
    s.name = settings.setupName
  endName       : ∀ s ∈ states, s.layout = .stateArray → s.id = settings.terminalId →
    s.name ∈ settings.endNames
  actions       : ∀ client, sources.clientScript = some client →
    ∀ name ∈ ClientScript.calledActions client.text, Handled sources states (Action.normalName name)
  notifications : ∀ client, sources.clientScript = some client → ∀ name, Sent sources name →
    settings.isBuiltin name ∨ name ∈ ClientScript.handledNotifications client.text
  imports       : ∀ f ∈ sources.stateClasses, StateClass.hasMarker f.text →
    StateClass.importsMarker f.text
  methods       : ∀ s ∈ states, s.layout = .stateClass →
    ∀ f, sources.stateClass? s.location = some f →
    ∀ a ∈ s.actions, hasFunction f.text (Action.method a)

variable {settings : Settings} {sources : Sources} {states : List StateDefinition}

theorem awaitsPlayers_iff {k : StateKind} :
    k.awaitsPlayers ↔ k = .singlePlayer ∨ k = .multiPlayer := by
  cases k <;> simp [StateKind.awaitsPlayers]

theorem duplicateIds_eq_nil : duplicateIds states = [] ↔ (states.map (·.id)).Nodup := by
  simp only [List.eq_nil_iff_forall_not_mem, mem_duplicateIds, length_locationsOf,
    List.nodup_iff_count_le_one]
  constructor
  case mp => exact fun h id => Nat.le_of_not_lt fun hl => h _ ⟨id, hl, rfl⟩
  case mpr => exact fun h _ ⟨id, hl, _⟩ => Nat.not_lt_of_le (h id) hl

theorem brokenTransitions_eq_nil :
    brokenTransitions settings states = [] ↔
      ∀ s ∈ states, ∀ label target, s.transitions.get? label = some target →
        Declared states target ∨ settings.isReserved target := by
  simp only [List.eq_nil_iff_forall_not_mem, mem_brokenTransitions]
  constructor
  case mp =>
    intro h s hs label target ht
    by_contra hn
    exact h _ ⟨s, hs, label, target, ht, hn, rfl⟩
  case mpr => exact fun h _ ⟨s, hs, label, target, ht, hn, _⟩ => hn (h s hs label target ht)

theorem unreachableStates_eq_nil :
    unreachableStates settings states = [] ↔ ∀ s ∈ states, ¬settings.isReserved s.id →
      Targeted states s.id := by
  simp only [List.eq_nil_iff_forall_not_mem, mem_unreachableStates]
  constructor
  case mp =>
    intro h s hs hr
    by_contra hn
    exact h _ ⟨s, hs, hn, hr, rfl⟩
  case mpr => exact fun h _ ⟨s, hs, hn, hr, _⟩ => hn (h s hs hr)

theorem missingZombies_eq_nil :
    missingZombies states = [] ↔
      ∀ s ∈ states, s.layout = .stateClass → s.kind = .singlePlayer ∨ s.kind = .multiPlayer →
        s.hasZombie := by
  simp only [List.eq_nil_iff_forall_not_mem, mem_missingZombies, isStateClass_iff,
    awaitsPlayers_iff]
  constructor
  case mp =>
    intro h s hs hl hk
    by_contra hn
    exact h _ ⟨s, hs, hl, hk, hn, rfl⟩
  case mpr => exact fun h _ ⟨s, hs, hl, hk, hn, _⟩ => hn (h s hs hl hk)

theorem classNameMismatches_eq_nil :
    classNameMismatches states = [] ↔
      ∀ s ∈ states, s.layout = .stateClass → ∀ c, s.className = some c →
        baseName s.location = c := by
  simp only [List.eq_nil_iff_forall_not_mem, mem_classNameMismatches, isStateClass_iff]
  constructor
  case mp =>
    intro h s hs hl c hc
    by_contra hn
    exact h _ ⟨s, hs, hl, c, hc, hn, rfl⟩
  case mpr => exact fun h _ ⟨s, hs, hl, c, hc, hn, _⟩ => hn (h s hs hl c hc)

theorem reservedNames_eq_nil :
    reservedNames settings states = [] ↔
      ∀ s ∈ states, s.layout = .stateArray →
        (s.id = settings.initialId → s.name = settings.setupName) ∧
          (s.id = settings.terminalId → s.name ∈ settings.endNames) := by
  simp only [List.eq_nil_iff_forall_not_mem, mem_reservedNames, not_isStateClass_iff]
  constructor
  case mp =>
    intro h s hs hl
    constructor
    case left =>
      intro hi
      by_contra hn
      exact h _ ⟨s, hs, hl, .inl ⟨hi, hn, rfl⟩⟩
    case right =>
      intro ht
      by_contra hn
      exact h _ ⟨s, hs, hl, .inr ⟨ht, hn, rfl⟩⟩
  case mpr =>
    intro h d ⟨s, hs, hl, hd⟩
    cases hd
    case inl hd => exact hd.right.left ((h s hs hl).left hd.left)
    case inr hd => exact hd.right.left ((h s hs hl).right hd.left)

theorem unknownActions_eq_nil :
    findingsOf settings sources states .unknownAction = [] ↔
      ∀ client, sources.clientScript = some client →
        ∀ name ∈ ClientScript.calledActions client.text,
        Handled sources states (Action.normalName name) := by
  simp only [List.eq_nil_iff_forall_not_mem, mem_unknownActions]
  constructor
  case mp =>
    intro h client hc name hm
    by_contra hn
    exact h _ ⟨client, hc, name, hm, hn, rfl⟩
  case mpr => exact fun h _ ⟨client, hc, name, hm, hn, _⟩ => hn (h client hc name hm)

theorem unhandledNotifications_eq_nil :
    findingsOf settings sources states .unhandledNotification = [] ↔
      ∀ client, sources.clientScript = some client → ∀ name, Sent sources name →
        settings.isBuiltin name ∨ name ∈ ClientScript.handledNotifications client.text := by
  simp only [List.eq_nil_iff_forall_not_mem, mem_unhandledNotifications]
  constructor
  case mp =>
    intro h client hc name hs
    by_contra hn
    rw [not_or] at hn
    exact h _ ⟨client, hc, name, hs, hn.left, hn.right, rfl⟩
  case mpr => exact fun h _ ⟨client, hc, name, hs, hb, hn, _⟩ => (h client hc name hs).elim hb hn

theorem missingImports_eq_nil :
    missingImports sources = [] ↔
      ∀ f ∈ sources.stateClasses, StateClass.hasMarker f.text →
        StateClass.importsMarker f.text := by
  simp only [List.eq_nil_iff_forall_not_mem, mem_missingImports]
  constructor
  case mp =>
    intro h f hf hm
    by_contra hn
    exact h _ ⟨f, hf, hm, hn, rfl⟩
  case mpr => exact fun h _ ⟨f, hf, hm, hn, _⟩ => hn (h f hf hm)

theorem missingMethods_eq_nil :
    missingMethods sources states = [] ↔
      ∀ s ∈ states, s.layout = .stateClass → ∀ f, sources.stateClass? s.location = some f →
        ∀ a ∈ s.actions, hasFunction f.text (Action.method a) := by
  simp only [List.eq_nil_iff_forall_not_mem, mem_missingMethods, isStateClass_iff]
  constructor
  case mp =>
    intro h s hs hl f hf a ha
    by_contra hn
    exact h _ ⟨s, hs, hl, f, hf, a, ha, hn, rfl⟩
  case mpr => exact fun h _ ⟨s, hs, hl, f, hf, a, ha, hn, _⟩ => hn (h s hs hl f hf a ha)

theorem Clean.findingsOf_eq_nil (h : Clean settings sources states) {r : Rule}
    (hr : r.severity ≠ .info) : findingsOf settings sources states r = [] := by
  cases r
  case unreadableFile | unknownClass => rfl
  case duplicateId => exact duplicateIds_eq_nil.mpr h.uniqueIds
  case brokenTransition => exact brokenTransitions_eq_nil.mpr h.targets
  case unreachableState => exact unreachableStates_eq_nil.mpr h.reached
  case missingZombie => exact missingZombies_eq_nil.mpr h.zombies
  case classNameMismatch =>
    refine classNameMismatches_eq_nil.mpr fun s hs hl c hn => ?_
    exact Option.some.inj ((h.classNames s hs hl).symm.trans hn)
  case reservedName =>
    exact reservedNames_eq_nil.mpr fun s hs hl => ⟨h.setupName s hs hl, h.endName s hs hl⟩
  case missingImport => exact missingImports_eq_nil.mpr h.imports
  case missingMethod => exact missingMethods_eq_nil.mpr h.methods
  case unknownAction => exact unknownActions_eq_nil.mpr h.actions
  case unhandledNotification => exact unhandledNotifications_eq_nil.mpr h.notifications
  case uncalledAction | unsentNotification | progressionStub => exact absurd rfl hr

theorem clean_iff (hc : ∀ s ∈ states, s.layout = .stateClass → s.className.isSome) :
    Clean settings sources states ↔
      states ≠ [] ∧ sources.unreadable = [] ∧
        ∀ r : Rule, r.severity ≠ .info → findingsOf settings sources states r = [] := by
  refine ⟨fun h => ⟨h.hasStates, h.readable, fun r hr => h.findingsOf_eq_nil hr⟩, ?_⟩
  intro ⟨hs, hu, hr⟩
  have names := reservedNames_eq_nil.mp (hr .reservedName (by decide))
  exact {
    hasStates := hs
    readable := hu
    uniqueIds := duplicateIds_eq_nil.mp (hr .duplicateId (by decide))
    targets := brokenTransitions_eq_nil.mp (hr .brokenTransition (by decide))
    reached := unreachableStates_eq_nil.mp (hr .unreachableState (by decide))
    zombies := missingZombies_eq_nil.mp (hr .missingZombie (by decide))
    classNames := by
      intro s hs hl
      have ⟨c, hn⟩ := Option.isSome_iff_exists.mp (hc s hs hl)
      rw [hn, classNameMismatches_eq_nil.mp (hr .classNameMismatch (by decide)) s hs hl c hn]
    setupName := fun s hs hl => (names s hs hl).left
    endName := fun s hs hl => (names s hs hl).right
    actions := unknownActions_eq_nil.mp (hr .unknownAction (by decide))
    notifications := unhandledNotifications_eq_nil.mp (hr .unhandledNotification (by decide))
    imports := missingImports_eq_nil.mp (hr .missingImport (by decide))
    methods := missingMethods_eq_nil.mp (hr .missingMethod (by decide))
  }

theorem forall_battery_iff :
    (∀ d ∈ battery settings sources states, d.severity = .info) ↔
      ∀ r : Rule, r.severity ≠ .info → findingsOf settings sources states r = [] := by
  constructor
  case mp =>
    intro h r hr
    refine List.eq_nil_iff_forall_not_mem.mpr fun d hd => hr ?_
    have hi := h d (mem_battery.mpr ⟨r, hd⟩)
    rwa [(follows_of_mem_findingsOf hd).severity] at hi
  case mpr =>
    intro h d hd
    have ⟨r, hr⟩ := mem_battery.mp hd
    rw [(follows_of_mem_findingsOf hr).severity]
    by_contra hn
    rw [h r hn] at hr
    exact absurd hr List.not_mem_nil

theorem forall_findings_iff :
    (∀ d ∈ findings settings sources, d.severity = .info) ↔
      sources.unreadable = [] ∧
        ∀ d ∈ battery settings sources (Model.ofSources sources).states, d.severity = .info := by
  constructor
  case mp =>
    intro h
    constructor
    case left =>
      refine List.eq_nil_iff_forall_not_mem.mpr fun f hf => ?_
      have hi := h _ (mem_findings.mpr (.inl ⟨f, hf, rfl⟩))
      exact absurd hi (by simp [unreadableFile, Rule.finding, Rule.severity])
    case right => exact fun d hd => h d (mem_findings.mpr (.inr (.inr hd)))
  case mpr =>
    intro ⟨hu, hb⟩ d hd
    rcases mem_findings.mp hd with ⟨f, hf, _⟩ | hd | hd
    · rw [hu] at hf
      exact absurd hf List.not_mem_nil
    · exact Model.severity_of_mem_notes hd
    · exact hb d hd

-- With no rule switched off, a run has an outcome and passes exactly if the game is clean.
theorem lint_passed_iff (h : settings.disabledRules = []) :
    (∃ o, lint settings sources = .ok o ∧ o.passed) ↔
      Clean settings sources (Model.ofSources sources).states := by
  have hc : ∀ s ∈ (Model.ofSources sources).states, s.layout = .stateClass →
      s.className.isSome := by
    intro s hs hl
    rw [Model.className_of_mem hs hl]
    rfl
  calc (∃ o, lint settings sources = .ok o ∧ o.passed)
    _ ↔ (Model.ofSources sources).states ≠ [] ∧ (outcomeOf settings sources).passed := by
      simp only [lint_eq_ok, and_assoc, exists_and_left, exists_eq_left']
    _ ↔ (Model.ofSources sources).states ≠ [] ∧
      ∀ d ∈ findings settings sources, d.severity = .info := by
      simp only [Outcome.passed_iff, mem_diagnostics, isEnabled_of_nil h, and_true]
    _ ↔ Clean settings sources (Model.ofSources sources).states := by
      rw [forall_findings_iff, forall_battery_iff, clean_iff hc]

def loopGame : Sources :=
  Sources.empty.withStateClass "Turn.php"
    "class Turn extends GameState \x7b id: 2, type: StateType::GAME, transitions: ['next' => 2] \x7d"

theorem loopGame_clean :
    Settings.default.disabledRules = [] ∧
      Clean .default loopGame (Model.ofSources loopGame).states := by
  have h : lint .default loopGame = .ok ⟨[], 1, none, 1⟩ := by decide +kernel
  exact ⟨rfl, (lint_passed_iff rfl).mp ⟨_, h, rfl⟩⟩

end StateLint
