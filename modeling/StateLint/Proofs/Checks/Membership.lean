import StateLint.Checks.Battery
import StateLint.Proofs.Transitions

namespace StateLint.Checks

variable {settings : Settings} {sources : Sources} {states : List StateDefinition} {d : Diagnostic}

def Declared (states : List StateDefinition) (id : UInt32) : Prop :=
  ∃ s ∈ states, s.id = id

def Targeted (states : List StateDefinition) (id : UInt32) : Prop :=
  ∃ s ∈ states, ∃ label, s.transitions.get? label = some id

def Handled (sources : Sources) (states : List StateDefinition) (normal : String) : Prop :=
  (∃ s ∈ states, ∃ a ∈ s.actions, Action.normalName a = normal) ∨
    ∃ f, sources.mainScript = some f ∧
      ∃ a ∈ ServerScript.playerActions f.text, a.normalName = normal

def Sent (sources : Sources) (name : String) : Prop :=
  ∃ f ∈ sources.serverFiles, name ∈ ServerScript.sentNotifications f.text

theorem mem_declaredIds {id : UInt32} :
    id ∈ declaredIds settings states ↔ Declared states id ∨ settings.isReserved id := by
  simp [declaredIds, Declared, Settings.reservedIds, Settings.isReserved]

theorem mem_targetIds {id : UInt32} : id ∈ targetIds states ↔ Targeted states id := by
  simp [targetIds, Targeted, Transitions.mem_targets]

theorem mem_knownActions {normal : String} :
    normal ∈ knownActions sources states ↔ Handled sources states normal := by
  simp [knownActions, Handled, List.mem_eraseDups]

theorem mem_sentNotifications {name : String} :
    name ∈ sentNotifications sources ↔ Sent sources name := by
  simp [sentNotifications, Sent, List.mem_eraseDups]

theorem mem_ids_of_locationsOf {id : UInt32} (h : 0 < (locationsOf states id).length) :
    id ∈ states.map (·.id) := by
  have ⟨_, hl⟩ := List.exists_mem_of_length_pos h
  have ⟨s, hs, _⟩ := List.mem_map.mp hl
  have ⟨hs, hi⟩ := List.mem_filter.mp hs
  exact List.mem_map.mpr ⟨s, hs, by simpa using hi⟩

theorem length_locationsOf (states : List StateDefinition) (id : UInt32) :
    (locationsOf states id).length = (states.map (·.id)).count id := by
  rw [locationsOf, List.length_map, List.count, List.countP_map, List.countP_eq_length_filter]
  rfl

theorem mem_duplicateIds :
    d ∈ duplicateIds states ↔
      ∃ id, 1 < (locationsOf states id).length ∧ duplicateId id (locationsOf states id) = d := by
  simp only [duplicateIds, List.mem_map, List.mem_filter, List.mem_eraseDups, decide_eq_true_eq]
  constructor
  case mp =>
    rintro ⟨_, ⟨⟨id, _, rfl⟩, hl⟩, hd⟩
    exact ⟨id, hl, hd⟩
  case mpr =>
    intro ⟨id, hl, hd⟩
    have hm := List.mem_map.mp (mem_ids_of_locationsOf (Nat.zero_lt_of_lt hl))
    exact ⟨_, ⟨⟨id, hm, rfl⟩, hl⟩, hd⟩

theorem mem_brokenTransitions :
    d ∈ brokenTransitions settings states ↔
      ∃ s ∈ states, ∃ label target, s.transitions.get? label = some target ∧
        ¬(Declared states target ∨ settings.isReserved target) ∧
          brokenTransition s label target = d := by
  simp only [brokenTransitions, List.mem_flatMap, List.mem_map, List.mem_filter, decide_eq_true_eq,
    mem_declaredIds, Prod.exists, Transitions.mem_toList, and_assoc]

theorem mem_unreachableStates :
    d ∈ unreachableStates settings states ↔
      ∃ s ∈ states, ¬Targeted states s.id ∧ ¬settings.isReserved s.id ∧ unreachableState s = d := by
  simp [unreachableStates, mem_targetIds, and_assoc]

theorem mem_missingZombies :
    d ∈ missingZombies states ↔
      ∃ s ∈ states, s.isStateClass ∧ s.kind.awaitsPlayers ∧ ¬s.hasZombie ∧ missingZombie s = d := by
  simp [missingZombies, and_assoc]

theorem mem_classNameMismatches :
    d ∈ classNameMismatches states ↔
      ∃ s ∈ states, s.isStateClass ∧ ∃ c, s.className = some c ∧ baseName s.location ≠ c ∧
        classNameMismatch s c = d := by
  simp [classNameMismatches, and_assoc]

theorem mem_reservedNames :
    d ∈ reservedNames settings states ↔
      ∃ s ∈ states, ¬s.isStateClass ∧
        ((s.id = settings.initialId ∧ s.name ≠ settings.setupName ∧
          reservedName s settings.setupName = d) ∨
          (s.id = settings.terminalId ∧ s.name ∉ settings.endNames ∧
            reservedName s (settings.endNames.head?.getD "gameEnd") = d)) := by
  simp only [reservedNames, List.mem_flatMap, List.mem_filter, List.mem_append,
    List.mem_ite_nil_right, List.mem_singleton, and_assoc, eq_comm (a := d), Bool.not_eq_true',
    Bool.not_eq_true]

theorem mem_actionFindings :
    d ∈ actionFindings sources states ↔
      ∃ client, sources.clientScript = some client ∧
        ((∃ name ∈ ClientScript.calledActions client.text,
          ¬Handled sources states (Action.normalName name) ∧
            unknownAction client name = d) ∨
          (ClientScript.calledActions client.text ≠ [] ∧ ∃ action, Handled sources states action ∧
            (∀ name ∈ ClientScript.calledActions client.text, Action.normalName name ≠ action) ∧
              uncalledAction client action = d)) := by
  simp only [actionFindings, List.mem_flatMap, Option.mem_toList, List.mem_append, List.mem_map,
    List.mem_filter, mem_knownActions, decide_eq_true_eq, List.mem_ite_nil_left, List.isEmpty_iff,
    and_assoc, not_exists, not_and]

theorem mem_notificationFindings :
    d ∈ notificationFindings settings sources ↔
      ∃ client, sources.clientScript = some client ∧
        ((∃ name, Sent sources name ∧ ¬settings.isBuiltin name ∧
            name ∉ ClientScript.handledNotifications client.text ∧
              unhandledNotification client name = d) ∨
          (∃ name ∈ ClientScript.handledNotifications client.text, ¬Sent sources name ∧
            unsentNotification client name = d)) := by
  simp only [notificationFindings, List.mem_flatMap, Option.mem_toList, List.mem_append,
    List.mem_map, List.mem_filter, mem_sentNotifications, decide_eq_true_eq, Bool.and_eq_true,
    Bool.not_eq_true', Bool.not_eq_true, and_assoc]

theorem mem_progressionFindings :
    d ∈ progressionFindings sources ↔
      ∃ f, sources.mainScript = some f ∧ ServerScript.progressionIsStub f.text ∧
        progressionStub f = d := by
  simp [progressionFindings, and_assoc]

theorem mem_missingImports :
    d ∈ missingImports sources ↔
      ∃ f ∈ sources.stateClasses, StateClass.hasMarker f.text ∧ ¬StateClass.importsMarker f.text ∧
        missingImport f = d := by
  simp [missingImports, and_assoc]

theorem mem_missingMethods :
    d ∈ missingMethods sources states ↔
      ∃ s ∈ states, s.isStateClass ∧ ∃ f, sources.stateClass? s.location = some f ∧
        ∃ a ∈ s.actions, ¬hasFunction f.text (Action.method a) ∧
          missingMethod s (Action.method a) = d := by
  simp [missingMethods, List.filter_map, and_assoc]

end StateLint.Checks
