import StateLint.Proofs.Checks.CrossReference
import StateLint.Proofs.MarkedMethod
import StateLint.Proofs.Outcome

namespace StateLint

open Checks Text

-- The name of the method that is marked, and the name of the action that a state keeps of it.
def markedName (n : List Char) : String := .ofList ('a' :: 'c' :: 't' :: n)
def keptName (n : List Char) : String := .ofList (StateClass.lowerFirst n)

theorem lowerFirst_of_isUpper {c : Char} (hc : c.isUpper) (cs : List Char) :
    StateClass.lowerFirst (c :: cs) = c.toLower :: cs := by
  have ⟨_, hu⟩ := Action.isUpper_iff.mp hc
  rw [StateClass.lowerFirst, lowercase_ascii (by omega), List.singleton_append]

theorem length_lowercase_le (c : Char) : (lowercase c).length ≤ 2 := by
  unfold lowercase
  split
  case isTrue => simp
  case isFalse =>
    split
    case isTrue => simp
    case isFalse => split <;> simp

theorem length_lowerFirst_le (n : List Char) : (StateClass.lowerFirst n).length ≤ n.length + 1 := by
  cases n
  case nil => simp [StateClass.lowerFirst]
  case cons c cs =>
    have := length_lowercase_le c
    simp only [StateClass.lowerFirst, List.length_append, List.length_cons]
    omega

theorem normalName_keptName_iff (n : List Char) :
    Action.normalName (keptName n) = Action.normalName (markedName n) ↔
      ∃ c ∈ n.head?, c.isUpper := by
  simp only [Action.normalName, keptName, markedName, String.toList_ofList, String.ofList_inj]
  constructor
  case mp =>
    intro h
    by_contra hc
    -- Nothing is stripped from the name of the method, and what is kept is shorter.
    have hk := Action.length_normalize_le (StateClass.lowerFirst n)
    have hl := length_lowerFirst_le n
    rw [h, Action.normalize_of_not_prefixed (mt Action.prefixed_act.mp hc)] at hk
    simp only [List.length_cons] at hk
    omega
  case mpr =>
    rintro ⟨c, hn, hc⟩
    obtain ⟨cs, rfl⟩ := List.head?_eq_some_iff.mp hn
    rw [lowerFirst_of_isUpper hc, Action.normalize_act hc]

theorem missingMethod_inj {s t : StateDefinition} {m n : String}
    (h : missingMethod s m = missingMethod t n) :
    s.location = t.location ∧ m = n := by
  simp only [missingMethod, Rule.finding, Diagnostic.mk.injEq, Option.some.injEq] at h
  have ⟨_, _, hl, _, hm⟩ := h
  exact ⟨hl, by simpa [toString] using hm⟩

variable {sources : Sources} {f : SourceFile} {s : StateDefinition} {n : List Char}

theorem keptName_mem (hs : StateClass.state? f.text f.path = some s)
    (hn : n ∈ StateClass.markedMethod.anywhere.findAll f.text.toList) : keptName n ∈ s.actions := by
  rw [(StateClass.state?_eq_some hs).right.right.right]
  exact StateClass.mem_actions hn

def markedClass (name : String) : SourceFile :=
  ⟨"A.php",
    "class A extends GameState \x7b id: 1, type: StateType::GAME #[PossibleAction] public function "
    ++ name ++ "() \x7b\x7d \x7d"⟩

def callingScript (name : String) : SourceFile :=
  ⟨"a.js", "bgaPerformAction('" ++ name ++ "')"⟩

def markedGame (name : String) : Sources :=
  { Sources.empty with
    stateClasses := [markedClass name]
    clientScript := some (callingScript name) }

theorem normalName_markedName (hc : ¬∃ c ∈ n.head?, c.isUpper) :
    Action.normalName (markedName n) = markedName n := by
  simp only [Action.normalName, markedName, String.toList_ofList, String.ofList_inj]
  exact Action.normalize_of_not_prefixed (mt Action.prefixed_act.mp hc)

-- A marked method is called by its own name. The state keeps the name of the action and the file
-- has the method, and yet the call is among the findings unless a capital follows `act` or the
-- very name of the method is that of an action from elsewhere.
theorem marked_call_unknown_iff (hf : f ∈ sources.stateClasses)
    (hs : StateClass.state? f.text f.path = some s)
    (hn : n ∈ StateClass.markedMethod.anywhere.findAll f.text.toList) :
    keptName n ∈ s.actions ∧ hasFunction f.text (markedName n) ∧
      (Action.normalName (keptName n) = Action.normalName (markedName n) ↔
        ∃ c ∈ n.head?, c.isUpper) ∧
      ∀ {client}, sources.clientScript = some client →
        markedName n ∈ ClientScript.calledActions client.text →
        (unknownAction client (markedName n) ∈
            actionFindings sources (Model.ofSources sources).states ↔
          (¬∃ c ∈ n.head?, c.isUpper) ∧
            ¬Handled sources (Model.ofSources sources).states (markedName n)) := by
  have hk := keptName_mem hs hn
  refine ⟨hk, StateClass.hasFunction_of_marked hn, normalName_keptName_iff n, ?_⟩
  intro client hc hm
  rw [unknownAction_mem_actionFindings_iff hc hm]
  constructor
  case mp =>
    intro hu
    have hp : ¬∃ c ∈ n.head?, c.isUpper := fun hp =>
      hu (.inl ⟨s, Model.mem_states_of_class hf hs, _, hk, (normalName_keptName_iff n).mpr hp⟩)
    exact ⟨hp, normalName_markedName hp ▸ hu⟩
  case mpr =>
    intro ⟨hp, hu⟩
    rwa [normalName_markedName hp]

theorem markedGame_act_pass_unknown :
    ∃ s, StateClass.state? (markedClass "act_pass").text "A.php" = some s ∧
      "_pass" ∈ s.actions ∧ hasFunction (markedClass "act_pass").text "act_pass" ∧
        unknownAction (callingScript "act_pass") "act_pass" ∈ actionFindings
          (markedGame "act_pass") (Model.ofSources (markedGame "act_pass")).states := by
  have ⟨s, hs⟩ := Option.isSome_iff_exists.mp
    (show (StateClass.state? (markedClass "act_pass").text "A.php").isSome by decide +kernel)
  have hf : markedClass "act_pass" ∈ (markedGame "act_pass").stateClasses :=
    List.mem_singleton_self _
  have hn : ['_', 'p', 'a', 's', 's'] ∈
      StateClass.markedMethod.anywhere.findAll (markedClass "act_pass").text.toList := by
    decide +kernel
  have hm : "act_pass" ∈ ClientScript.calledActions (callingScript "act_pass").text := by
    decide +kernel
  have hu : ¬Handled (markedGame "act_pass") (Model.ofSources (markedGame "act_pass")).states
      "act_pass" := by
    decide +kernel
  have ⟨hk, hh, _, hi⟩ := marked_call_unknown_iff hf hs hn
  exact ⟨s, hs, hk, hh, (hi rfl hm).mpr ⟨by simp, hu⟩⟩

theorem prefixed_toLower_iff {c : Char} (hc : c.isUpper) (cs : List Char) :
    Action.Prefixed (c.toLower :: cs) ↔ ∃ d ds, c :: cs = 'A' :: 'c' :: 't' :: d :: ds ∧
      d.isUpper := by
  constructor
  case mp =>
    intro ⟨d, ds, he, hd⟩
    have ⟨ha, hs⟩ := List.cons.inj he
    have hu := Action.toUpper_toLower hc
    rw [ha] at hu
    exact ⟨d, ds, by rw [hs, ← hu]; rfl, hd⟩
  case mpr =>
    intro ⟨d, ds, he, hd⟩
    have ⟨ha, hs⟩ := List.cons.inj he
    exact ⟨d, ds, by rw [hs, ha]; rfl, hd⟩

theorem method_keptName_iff {c : Char} (hc : c.isUpper) (cs : List Char) :
    Action.method (keptName (c :: cs)) = markedName (c :: cs) ↔
      ¬∃ d ds, c :: cs = 'A' :: 'c' :: 't' :: d :: ds ∧ d.isUpper := by
  rw [← prefixed_toLower_iff hc, ← Action.methodName_toLower_iff hc]
  simp only [Action.method, keptName, markedName, String.toList_ofList, String.ofList_inj,
    lowerFirst_of_isUpper hc]

theorem mem_missingMethods_of_class {m : String} (hd : (sources.stateClasses.map (·.path)).Nodup)
    (hf : f ∈ sources.stateClasses) (hs : StateClass.state? f.text f.path = some s) :
    missingMethod s m ∈ missingMethods sources (Model.ofSources sources).states ↔
      (∃ a ∈ s.actions, Action.method a = m) ∧ ¬hasFunction f.text m := by
  have ⟨hl, hp, _⟩ := StateClass.state?_eq_some hs
  have hc : sources.stateClass? s.location = some f := by rw [hp, Sources.stateClass?_of_mem hd hf]
  rw [mem_missingMethods]
  constructor
  case mp =>
    intro ⟨t, ht, htl, g, hg, a, ha, hn, he⟩
    have ⟨htp, hm⟩ := missingMethod_inj he
    rw [Model.eq_of_location hd hf hs ht (isStateClass_iff.mp htl) htp] at ha hg
    rw [hc] at hg
    rw [hm, ← Option.some.inj hg] at hn
    exact ⟨⟨a, ha, hm⟩, hn⟩
  case mpr =>
    rintro ⟨⟨a, ha, rfl⟩, hn⟩
    exact ⟨s, Model.mem_states_of_class hf hs, isStateClass_iff.mpr hl, f, hc, a, ha, hn, rfl⟩

-- The method of a marked action is there, and yet it is missed exactly if its name has a second
-- prefix and no function has the name with but one.
theorem marked_method_missed_iff (settings : Settings) {c : Char} {cs : List Char}
    (hd : (sources.stateClasses.map (·.path)).Nodup) (hf : f ∈ sources.stateClasses)
    (hs : StateClass.state? f.text f.path = some s)
    (hn : c :: cs ∈ StateClass.markedMethod.anywhere.findAll f.text.toList) (hc : c.isUpper) :
    ∃ o, lint settings sources = .ok o ∧
      (missingMethod s (Action.method (keptName (c :: cs))) ∈ o.diagnostics ↔
        settings.isEnabled Rule.missingMethod.code ∧
          (∃ d ds, c :: cs = 'A' :: 'c' :: 't' :: d :: ds ∧ d.isUpper) ∧
          ¬hasFunction f.text (Action.method (keptName (c :: cs)))) := by
  refine ⟨outcomeOf settings sources, lint_eq_ok.mpr ⟨Model.states_ne_nil hf hs, rfl⟩, ?_⟩
  have hr : missingMethod s (Action.method (keptName (c :: cs))) ∈ findings settings sources ↔
      missingMethod s (Action.method (keptName (c :: cs))) ∈
        missingMethods sources (Model.ofSources sources).states :=
    mem_findings_iff_of_code (r := .missingMethod) (by decide) (by decide) rfl
  rw [mem_diagnostics, hr, mem_missingMethods_of_class hd hf hs]
  constructor
  case mp =>
    intro ⟨⟨_, hm⟩, he⟩
    refine ⟨he, ?_, hm⟩
    by_contra hp
    rw [(method_keptName_iff hc cs).mpr hp] at hm
    exact hm (StateClass.hasFunction_of_marked hn)
  case mpr =>
    intro ⟨he, _, hm⟩
    exact ⟨⟨⟨_, keptName_mem hs hn, rfl⟩, hm⟩, he⟩

theorem markedGame_actActPass_missed :
    ∃ s o, StateClass.state? (markedClass "actActPass").text "A.php" = some s ∧
      ['A', 'c', 't', 'P', 'a', 's', 's'] ∈
        StateClass.markedMethod.anywhere.findAll (markedClass "actActPass").text.toList ∧
          lint .default (markedGame "actActPass") = .ok o ∧
            missingMethod s "actPass" ∈ o.diagnostics := by
  have ⟨s, hs⟩ := Option.isSome_iff_exists.mp
    (show (StateClass.state? (markedClass "actActPass").text "A.php").isSome by decide +kernel)
  have hn : ['A', 'c', 't', 'P', 'a', 's', 's'] ∈
      StateClass.markedMethod.anywhere.findAll (markedClass "actActPass").text.toList := by
        decide +kernel
  have hm : Action.method (keptName ['A', 'c', 't', 'P', 'a', 's', 's']) = "actPass" := by
    decide +kernel
  have hp : ¬hasFunction (markedClass "actActPass").text "actPass" := by decide +kernel
  have hd : ((markedGame "actActPass").stateClasses.map (·.path)).Nodup := List.nodup_singleton _
  have ⟨o, ho, hi⟩ :=
    marked_method_missed_iff .default hd (List.mem_singleton_self _) hs hn (by decide)
  rw [hm] at hi
  exact ⟨s, o, hs, hn, ho, hi.mpr ⟨by decide, ⟨'P', _, rfl, by decide⟩, hp⟩⟩

end StateLint
