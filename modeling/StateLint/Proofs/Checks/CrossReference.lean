import StateLint.Proofs.Checks.Rule
import StateLint.Proofs.ClientScript
import StateLint.Proofs.FirstOccurrence
import StateLint.Proofs.NormalForm

namespace StateLint.Checks

open Text

variable {settings : Settings} {sources : Sources} {states : List StateDefinition}
  {client : SourceFile}

instance (normal : String) : Decidable (Handled sources states normal) :=
  decidable_of_iff _ mem_knownActions

def Called (client : SourceFile) (normal : String) : Prop :=
  ∃ name ∈ ClientScript.calledActions client.text, Action.normalName name = normal

theorem finding_message (r : Rule) (location message : String) :
    (r.finding location message).message = message :=
  rfl

-- Findings about different names differ.

theorem unknownAction_inj {f g : SourceFile} {m n : String} (hm : ∀ c ∈ m.toList, isWord c)
    (hn : ∀ c ∈ n.toList, isWord c) (h : unknownAction f m = unknownAction g n) : m = n := by
  have hs : (Rule.unknownAction.finding f.path _).message.toList =
      (Rule.unknownAction.finding g.path _).message.toList :=
    congrArg (·.message.toList) h
  simp only [finding_message, toString, String.toList_append, List.append_assoc,
    List.append_cancel_left_eq] at hs
  -- The name ends at the quotation mark behind it.
  have hq : ∀ (t : List Char), ∀ c ∈ ("', ...)` but no matching `".toList ++ t).head?,
      isWord c = false := by
    intro t c hc
    cases hc
    rfl
  have ht := congrArg (List.takeWhile isWord) hs
  rw [Reader.takeWhile_stop hm (hq _), Reader.takeWhile_stop hn (hq _)] at ht
  exact String.toList_inj.mp ht

theorem length_method {action : String} (h : Action.normalName action = action) :
    (Action.method action).toList.length = action.toList.length + 3 := by
  have hn : Action.normalize action.toList = action.toList := by rw [← Action.toList_normalName, h]
  rw [Action.method, String.toList_ofList, Action.length_methodName, hn]

theorem uncalledAction_inj {a b : String} (ha : Action.normalName a = a)
    (hb : Action.normalName b = b) (h : uncalledAction client a = uncalledAction client b) :
    a = b := by
  have hs := congrArg (·.message.toList) h
  simp only [uncalledAction, finding_message, toString, String.toList_append, List.append_assoc,
    List.append_cancel_left_eq] at hs
  -- The name stands in the text twice, once with three more characters, so its length is known.
  have hl : a.toList.length = b.toList.length := by
    have := congrArg List.length hs
    simp only [List.length_append, length_method ha, length_method hb] at this
    omega
  have ⟨_, hs⟩ := List.append_inj hs (by rw [length_method ha, length_method hb, hl])
  have ⟨hn, _⟩ := List.append_inj (List.append_cancel_left hs) hl
  exact String.toList_inj.mp hn

theorem unhandledNotification_inj {m n : String}
    (h : unhandledNotification client m = unhandledNotification client n) : m = n := by
  have hs := congrArg (·.message) h
  simpa [unhandledNotification, finding_message, toString] using hs

theorem unsentNotification_inj {m n : String}
    (h : unsentNotification client m = unsentNotification client n) : m = n := by
  have hs := congrArg (·.message) h
  simpa [unsentNotification, finding_message, toString] using hs

theorem nodup_calledActions (text : String) : (ClientScript.calledActions text).Nodup :=
  nodup_eraseDups _

theorem nodup_handledNotifications (text : String) :
    (ClientScript.handledNotifications text).Nodup :=
  nodup_eraseDups _

theorem severity_of_mem_battery {r : Rule} {d : Diagnostic}
    (h : d ∈ battery settings sources states) (hc : d.code = r.code) : d.severity = r.severity :=
  (follows_of_mem_findingsOf ((mem_battery_iff_of_code hc).mp h)).severity

theorem Handled.normalName_eq {action : String} :
    Handled sources states action → Action.normalName action = action
  | .inl ⟨_, _, _, _, h⟩ => h ▸ Action.normalName_normalName _
  | .inr ⟨_, _, _, _, h⟩ => h ▸ Action.normalName_normalName _

theorem mem_map_normalName {action : String} :
    action ∈ (ClientScript.calledActions client.text).map Action.normalName ↔
      Called client action := by
  simp [Called]

theorem filter_map_of_follows {q : Rule} {f : String → Diagnostic}
    (hf : ∀ name, (f name).Follows q) (r : Rule) (names : List String) :
    (names.map f).filter (·.code = r.code) = if q = r then names.map f else [] := by
  split
  case isTrue h =>
    refine List.filter_eq_self.mpr fun d hd => ?_
    have ⟨name, _, hd⟩ := List.mem_map.mp hd
    simpa [← hd, ← h] using (hf name).code
  case isFalse h =>
    refine filter_eq_nil_of_follows fun d hd => ?_
    have ⟨name, _, hd⟩ := List.mem_map.mp hd
    exact ⟨q, hd ▸ hf name, h⟩

theorem unknownAction_follows (name : String) :
    (unknownAction client name).Follows .unknownAction :=
  ⟨rfl, rfl⟩

theorem uncalledAction_follows (name : String) :
    (uncalledAction client name).Follows .uncalledAction :=
  ⟨rfl, rfl⟩

theorem unhandledNotification_follows (name : String) :
    (unhandledNotification client name).Follows .unhandledNotification :=
  ⟨rfl, rfl⟩

theorem unsentNotification_follows (name : String) :
    (unsentNotification client name).Follows .unsentNotification :=
  ⟨rfl, rfl⟩

def unknownNames (sources : Sources) (states : List StateDefinition) (client : SourceFile) :
    List String :=
  (ClientScript.calledActions client.text).filter fun name =>
    ¬Handled sources states (Action.normalName name)

def uncalledNames (sources : Sources) (states : List StateDefinition) (client : SourceFile) :
    List String :=
  if ClientScript.calledActions client.text = [] then [] else
    (knownActions sources states).filter
      (· ∉ (ClientScript.calledActions client.text).map Action.normalName)

theorem nodup_uncalledNames : (uncalledNames sources states client).Nodup := by
  unfold uncalledNames
  split
  case isTrue => exact .nil
  case isFalse => exact (nodup_eraseDups _).filter _

theorem mem_uncalledNames {action : String} :
    action ∈ uncalledNames sources states client ↔
      ClientScript.calledActions client.text ≠ [] ∧ Handled sources states action ∧
        ¬Called client action := by
  simp only [uncalledNames, List.mem_ite_nil_left, List.mem_filter, mem_knownActions,
    mem_map_normalName, decide_eq_true_eq, ne_eq]

section

variable (h : sources.clientScript = some client)
include h

theorem actionFindings_eq :
    actionFindings sources states =
      (unknownNames sources states client).map (unknownAction client) ++
        (uncalledNames sources states client).map (uncalledAction client) := by
  simp only [actionFindings, h, unknownNames, uncalledNames, mem_knownActions, List.isEmpty_iff]
  split <;> simp_all

theorem unknownActions_eq :
    findingsOf settings sources states .unknownAction =
      (unknownNames sources states client).map (unknownAction client) := by
  simp [findingsOf, actionFindings_eq h, filter_map_of_follows unknownAction_follows,
    filter_map_of_follows uncalledAction_follows]

theorem uncalledActions_eq :
    findingsOf settings sources states .uncalledAction =
      (uncalledNames sources states client).map (uncalledAction client) := by
  simp [findingsOf, actionFindings_eq h, filter_map_of_follows unknownAction_follows,
    filter_map_of_follows uncalledAction_follows]

theorem unknownAction_mem_iff {name : String}
    (hn : name ∈ ClientScript.calledActions client.text) :
    unknownAction client name ∈ battery settings sources states ↔
      ¬Handled sources states (Action.normalName name) := by
  rw [mem_battery_iff_of_code (unknownAction_follows name).code, unknownActions_eq h, List.mem_map]
  constructor
  case mp =>
    intro ⟨m, hm, he⟩
    have ⟨hc, hm⟩ := List.mem_filter.mp hm
    have := unknownAction_inj (ClientScript.isWord_of_called hc)
      (ClientScript.isWord_of_called hn) he
    simpa [this] using hm
  case mpr => exact fun hh => ⟨name, List.mem_filter.mpr ⟨hn, by simpa using hh⟩, rfl⟩

theorem unknownAction_mem_actionFindings_iff {name : String}
    (hn : name ∈ ClientScript.calledActions client.text) :
    unknownAction client name ∈ actionFindings sources states ↔
      ¬Handled sources states (Action.normalName name) := by
  have hb : unknownAction client name ∈ battery .default sources states ↔ _ :=
    unknownAction_mem_iff h hn
  have hc : (unknownAction client name).code = Rule.unknownAction.code := rfl
  rw [← hb, mem_battery_iff_of_code hc, findingsOf, List.mem_filter]
  simp [hc]

theorem uncalledAction_mem_iff {action : String} (ha : Action.normalName action = action) :
    uncalledAction client action ∈ battery settings sources states ↔
      ClientScript.calledActions client.text ≠ [] ∧ Handled sources states action ∧
        ¬Called client action := by
  rw [mem_battery_iff_of_code (uncalledAction_follows action).code, uncalledActions_eq h,
    List.mem_map, ← mem_uncalledNames]
  constructor
  case mp =>
    intro ⟨b, hb, he⟩
    have hn := (mem_uncalledNames.mp hb).right.left.normalName_eq
    exact uncalledAction_inj hn ha he ▸ hb
  case mpr => exact fun hm => ⟨action, hm, rfl⟩

end

-- How an action stands between the client and the server.
inductive Standing where
  -- Both sides have it.
  | matched
  -- Only the client has it.
  | unknown
  -- Only the server has it.
  | uncalled

def ReportsUnknown (found : List Diagnostic) (client : SourceFile) (action : String) : Prop :=
  ∃ name ∈ ClientScript.calledActions client.text, Action.normalName name = action ∧
    unknownAction client name ∈ found

def Standing.Told (settings : Settings) (sources : Sources) (states : List StateDefinition)
    (client : SourceFile) (action : String) : Standing → Prop :=
  let found := battery settings sources states
  fun
  | matched => Called client action ∧ Handled sources states action ∧
    ¬ReportsUnknown found client action ∧ uncalledAction client action ∉ found
  | unknown => ReportsUnknown found client action ∧ uncalledAction client action ∉ found
  | uncalled => ¬ReportsUnknown found client action ∧ uncalledAction client action ∈ found

theorem reportsUnknown_iff (h : sources.clientScript = some client) {action : String} :
    ReportsUnknown (battery settings sources states) client action ↔
      Called client action ∧ ¬Handled sources states action := by
  constructor
  case mp =>
    intro ⟨name, hn, ha, hd⟩
    exact ⟨⟨name, hn, ha⟩, ha ▸ (unknownAction_mem_iff h hn).mp hd⟩
  case mpr =>
    intro ⟨⟨name, hn, ha⟩, hh⟩
    exact ⟨name, hn, ha, (unknownAction_mem_iff h hn).mpr (ha.symm ▸ hh)⟩

theorem existsUnique_told (h : sources.clientScript = some client)
    (hc : ClientScript.calledActions client.text ≠ []) {action : String}
    (ha : Called client action ∨ Handled sources states action) :
    ∃! s : Standing, s.Told settings sources states client action := by
  have hn : Action.normalName action = action :=
    ha.elim (fun ⟨_, _, hn⟩ => hn ▸ Action.normalName_normalName _) Handled.normalName_eq
  have hu : ReportsUnknown (battery settings sources states) client action ↔ _ :=
    reportsUnknown_iff h
  have hv : uncalledAction client action ∈ battery settings sources states ↔ _ :=
    uncalledAction_mem_iff h hn
  by_cases hcalled : Called client action
  case pos =>
    by_cases hhandled : Handled sources states action
    case pos =>
      refine ⟨.matched, by simp [Standing.Told, hu, hv, hcalled, hhandled], fun s hs => ?_⟩
      cases s <;> simp_all [Standing.Told]
    case neg =>
      refine ⟨.unknown, by simp [Standing.Told, hu, hv, hcalled, hhandled], fun s hs => ?_⟩
      cases s <;> simp_all [Standing.Told]
  case neg =>
    have hhandled := ha.resolve_left hcalled
    refine ⟨.uncalled, by simp [Standing.Told, hu, hv, hcalled, hhandled, hc], fun s hs => ?_⟩
    cases s <;> simp_all [Standing.Told]

-- Actions are cross-referenced exactly: each call of an action that the server does not have is
-- found once, in the order of the calls, and, if any action is called at all, each action that is
-- not called is found once.
theorem actionFindings_exact (h : sources.clientScript = some client) :
    ((ClientScript.calledActions client.text).Nodup ∧
      (battery settings sources states).filter (·.code = "ACTION001") =
        ((ClientScript.calledActions client.text).filter fun name =>
          ¬Handled sources states (Action.normalName name)).map (unknownAction client)) ∧
    (∃ uncalled : List String, uncalled.Nodup ∧
      (∀ action, action ∈ uncalled ↔
        ClientScript.calledActions client.text ≠ [] ∧ Handled sources states action ∧
          ¬Called client action) ∧
      (battery settings sources states).filter (·.code = "ACTION002") =
        uncalled.map (uncalledAction client)) ∧
    (∀ d ∈ battery settings sources states,
      (d.code = "ACTION001" → d.severity = .error) ∧ (d.code = "ACTION002" → d.severity = .info)) ∧
    (ClientScript.calledActions client.text ≠ [] →
      ∀ action, Called client action ∨ Handled sources states action →
        ∃! s : Standing, s.Told settings sources states client action) := by
  refine ⟨⟨nodup_calledActions _, ?_⟩,
    ⟨uncalledNames sources states client, nodup_uncalledNames, fun _ => mem_uncalledNames, ?_⟩,
    ?_, ?_⟩
  · exact (filter_battery .unknownAction).trans (unknownActions_eq h)
  · exact (filter_battery .uncalledAction).trans (uncalledActions_eq h)
  · intro d hd
    exact ⟨severity_of_mem_battery (r := .unknownAction) hd,
      severity_of_mem_battery (r := .uncalledAction) hd⟩
  · exact fun hc action ha => existsUnique_told h hc ha

def crossedGame : Sources :=
  { Sources.empty with
    clientScript := some ⟨"a.js", "bgaPerformAction('pass') bgaPerformAction('draw') notif_moved("⟩
    mainScript :=
      some ⟨"Game.php", "function actPass() function actPlay() notifyAllPlayers('passed'"⟩ }

theorem crossedGame_actions :
    ∃ client, crossedGame.clientScript = some client ∧
      (battery .default crossedGame []).filter (·.code = "ACTION001") =
        [unknownAction client "draw"] := by
  refine ⟨_, rfl, ?_⟩
  rw [(actionFindings_exact rfl).left.right]
  decide +kernel

def unhandledNames (settings : Settings) (sources : Sources) (client : SourceFile) : List String :=
  (sentNotifications sources).filter fun name =>
    !settings.isBuiltin name && name ∉ ClientScript.handledNotifications client.text

def unsentNames (sources : Sources) (client : SourceFile) : List String :=
  (ClientScript.handledNotifications client.text).filter (· ∉ sentNotifications sources)

theorem mem_unhandledNames {name : String} :
    name ∈ unhandledNames settings sources client ↔
      Sent sources name ∧ name ∉ ClientScript.handledNotifications client.text ∧
        ¬settings.isBuiltin name := by
  simp [unhandledNames, mem_sentNotifications, and_comm]

theorem mem_unsentNames {name : String} :
    name ∈ unsentNames sources client ↔ name ∈ ClientScript.handledNotifications client.text ∧
      ¬Sent sources name := by
  simp [unsentNames, mem_sentNotifications]

section

variable (h : sources.clientScript = some client)
include h

theorem notificationFindings_eq :
    notificationFindings settings sources =
      (unhandledNames settings sources client).map (unhandledNotification client) ++
        (unsentNames sources client).map (unsentNotification client) := by
  simp [notificationFindings, h, unhandledNames, unsentNames]

theorem unhandledNotifications_eq :
    findingsOf settings sources states .unhandledNotification =
      (unhandledNames settings sources client).map (unhandledNotification client) := by
  simp [findingsOf, notificationFindings_eq h, filter_map_of_follows unhandledNotification_follows,
    filter_map_of_follows unsentNotification_follows]

theorem unsentNotifications_eq :
    findingsOf settings sources states .unsentNotification =
      (unsentNames sources client).map (unsentNotification client) := by
  simp [findingsOf, notificationFindings_eq h, filter_map_of_follows unhandledNotification_follows,
    filter_map_of_follows unsentNotification_follows]

theorem unhandledNotification_mem_iff {name : String} :
    unhandledNotification client name ∈ battery settings sources states ↔
      Sent sources name ∧ name ∉ ClientScript.handledNotifications client.text ∧
        ¬settings.isBuiltin name := by
  rw [mem_battery_iff_of_code (unhandledNotification_follows name).code,
    unhandledNotifications_eq h, List.mem_map, ← mem_unhandledNames]
  constructor
  case mp => exact fun ⟨_, hm, he⟩ => unhandledNotification_inj he ▸ hm
  case mpr => exact fun hm => ⟨name, hm, rfl⟩

theorem unsentNotification_mem_iff {name : String} :
    unsentNotification client name ∈ battery settings sources states ↔
      name ∈ ClientScript.handledNotifications client.text ∧ ¬Sent sources name := by
  rw [mem_battery_iff_of_code (unsentNotification_follows name).code, unsentNotifications_eq h,
    List.mem_map, ← mem_unsentNames]
  constructor
  case mp => exact fun ⟨_, hm, he⟩ => unsentNotification_inj he ▸ hm
  case mpr => exact fun hm => ⟨name, hm, rfl⟩

end

theorem notificationFindings_of_none (h : sources.clientScript = none) {r : Rule}
    (hr : r = .unhandledNotification ∨ r = .unsentNotification) :
    findingsOf settings sources states r = [] := by
  cases hr <;> subst r <;> simp [findingsOf, notificationFindings, h]

theorem code_ne_of_none (h : sources.clientScript = none) {r : Rule} {d : Diagnostic}
    (hr : r = .unhandledNotification ∨ r = .unsentNotification)
    (hd : d ∈ battery settings sources states) : d.code ≠ r.code := by
  intro hc
  have hf := (mem_battery_iff_of_code hc).mp hd
  simp [notificationFindings_of_none h hr] at hf

def sends (sources : Sources) : List String :=
  (sources.stateArray.toList ++ sources.mainScript.toList ++ sources.serverScripts ++
    sources.stateClasses).flatMap
    fun f => ServerScript.sentNotifications f.text

theorem mem_sends {name : String} : name ∈ sends sources ↔ Sent sources name :=
  List.mem_flatMap

theorem unsentNames_eq :
    unsentNames sources client =
      (ClientScript.handledNotifications client.text).filter (· ∉ sends sources) :=
  List.filter_congr fun name _ => by simp [mem_sentNotifications, mem_sends]

-- Notifications are cross-referenced exactly: each one that is sent, not handled and not built in
-- is found once, in the order of the first sends, and each one that is handled and not sent is
-- found once.
theorem notificationFindings_exact :
    (sources.clientScript = none →
      ∀ d ∈ battery settings sources states, d.code ≠ "NOTIF001" ∧ d.code ≠ "NOTIF002") ∧
    ∀ client, sources.clientScript = some client →
      (∃ unhandled : List String,
        (unhandled.Pairwise fun m n => (sends sources).idxOf m < (sends sources).idxOf n) ∧
        (∀ name, name ∈ unhandled ↔
          name ∈ sends sources ∧ name ∉ ClientScript.handledNotifications client.text ∧
            ¬settings.isBuiltin name) ∧
        (battery settings sources states).filter (·.code = "NOTIF001") =
          unhandled.map (unhandledNotification client)) ∧
      ((ClientScript.handledNotifications client.text).Nodup ∧
        (battery settings sources states).filter (·.code = "NOTIF002") =
          ((ClientScript.handledNotifications client.text).filter (· ∉ sends sources)).map
            (unsentNotification client)) ∧
      (∀ d ∈ battery settings sources states,
        (d.code = "NOTIF001" → d.severity = .warning) ∧
          (d.code = "NOTIF002" → d.severity = .info)) ∧
      ∀ name, ¬(unhandledNotification client name ∈ battery settings sources states ∧
        unsentNotification client name ∈ battery settings sources states) := by
  constructor
  case left =>
    intro h d hd
    exact ⟨code_ne_of_none h (.inl rfl) hd, code_ne_of_none h (.inr rfl) hd⟩
  case right =>
    intro client h
    refine ⟨⟨unhandledNames settings sources client, ?_, ?_, ?_⟩,
      ⟨nodup_handledNotifications _, ?_⟩, ?_, ?_⟩
    · exact (pairwise_eraseDups _).filter _
    · exact fun name => mem_unhandledNames.trans (by rw [mem_sends])
    · exact (filter_battery .unhandledNotification).trans (unhandledNotifications_eq h)
    · rw [← unsentNames_eq]
      exact (filter_battery .unsentNotification).trans (unsentNotifications_eq h)
    · intro d hd
      exact ⟨severity_of_mem_battery (r := .unhandledNotification) hd,
        severity_of_mem_battery (r := .unsentNotification) hd⟩
    · intro name ⟨hs, hn⟩
      have hm := (unhandledNotification_mem_iff h).mp hs
      exact hm.right.left ((unsentNotification_mem_iff h).mp hn).left

theorem crossedGame_notifications :
    ∃ client, crossedGame.clientScript = some client ∧
      (battery .default crossedGame []).filter (·.code = "NOTIF002") =
        [unsentNotification client "moved"] := by
  refine ⟨_, rfl, ?_⟩
  rw [((notificationFindings_exact.right _ rfl).right.left).right]
  decide +kernel

end StateLint.Checks
