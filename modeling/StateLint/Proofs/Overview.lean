import StateLint.ActionListing
import StateLint.Proofs.Outcome
import StateLint.Proofs.StableSort

namespace StateLint

variable {settings : Settings} {sources : Sources} {e : Failure} {label text : String}

namespace Model

theorem sorted_eq (m : Model) :
    m.sorted = m.states.mergeSort fun s t => s.id.toNat ≤ t.id.toNat := by
  simp only [sorted, UInt32.le_iff_toNat_le]

theorem sorted_perm (m : Model) : m.sorted.Perm m.states :=
  List.mergeSort_perm ..

theorem pairwise_sorted (m : Model) : m.sorted.Pairwise fun s t => s.id ≤ t.id := by
  simpa only [sorted_eq, UInt32.le_iff_toNat_le] using pairwise_mergeSort_key (·.id.toNat) m.states

theorem filter_id_sorted (m : Model) (id : UInt32) :
    m.sorted.filter (·.id = id) = m.states.filter (·.id = id) := by
  simpa only [sorted_eq, UInt32.toNat_inj] using filter_mergeSort_key (·.id.toNat) m.states id.toNat

theorem filter_id_states (id : UInt32) :
    (ofSources sources).states.filter (·.id = id) =
      (sources.stateArray.toList.flatMap fun f =>
        (StateArray.states f.text f.path).filter (·.id = id)) ++
        (sources.stateClasses.filterMap classState?).filter (·.id = id) := by
  rw [ofSources, List.filter_append, List.filter_flatMap]

theorem filter_stateClass_states : (ofSources sources).states.filter (·.isStateClass) =
    sources.stateClasses.filterMap classState? := by
  have ha :
      (sources.stateArray.toList.flatMap fun f => StateArray.states f.text f.path).filter
      (·.isStateClass) = [] := by
    refine List.filter_eq_nil_iff.mpr fun s hs => ?_
    have ⟨f, _, hs⟩ := List.mem_flatMap.mp hs
    exact not_isStateClass_iff.mpr (StateArray.layout_of_mem hs)
  have hc : (sources.stateClasses.filterMap classState?).filter (·.isStateClass) =
      sources.stateClasses.filterMap classState? := by
    refine List.filter_eq_self.mpr fun s hs => ?_
    have ⟨f, _, hs⟩ := List.mem_filterMap.mp hs
    exact isStateClass_iff.mpr (StateClass.state?_eq_some hs).left
  rw [ofSources, List.filter_append, ha, hc, List.nil_append]

theorem length_classes_add_notes :
    ((ofSources sources).states.filter (·.isStateClass)).length + (ofSources sources).notes.length =
      sources.stateClasses.length := by
  rw [filter_stateClass_states, ofSources]
  induction sources.stateClasses
  case nil => rfl
  case cons f fs hi => cases hf : classState? f <;> simp_all <;> omega

theorem code_of_mem_notes {d : Diagnostic} (h : d ∈ (ofSources sources).notes) :
    d.code = Rule.unknownClass.code := by
  have ⟨_, _, hd⟩ := List.mem_map.mp h
  exact hd ▸ rfl

end Model

theorem filter_findings_unknownClass :
    (findings settings sources).filter (·.code = Rule.unknownClass.code) =
      (Model.ofSources sources).notes := by
  have hu :
      (sources.unreadable.map unreadableFile).filter (·.code = Rule.unknownClass.code) = [] := by
    refine Checks.filter_eq_nil_of_follows fun d hd => ?_
    have ⟨_, _, hd⟩ := List.mem_map.mp hd
    exact ⟨.unreadableFile, hd ▸ ⟨rfl, rfl⟩, by decide⟩
  have hn : (Model.ofSources sources).notes.filter (·.code = Rule.unknownClass.code) =
      (Model.ofSources sources).notes :=
    List.filter_eq_self.mpr fun d hd => decide_eq_true (Model.code_of_mem_notes hd)
  rw [findings, List.filter_append, List.filter_append, hu, hn, Checks.filter_battery]
  simp [Checks.findingsOf]

theorem diagnostics_unknownClass (he : settings.isEnabled Rule.unknownClass.code) :
    (outcomeOf settings sources).diagnostics.filter (·.code = Rule.unknownClass.code) =
      (Model.ofSources sources).notes := by
  rw [filter_diagnostics, filter_findings_unknownClass]
  exact List.filter_eq_self.mpr fun d hd => Model.code_of_mem_notes hd ▸ he

namespace Overview

variable {v : Overview}

theorem ofSources_eq_ok :
    ofSources sources = .ok v ↔ (Model.ofSources sources).states ≠ [] ∧
      ⟨(Model.ofSources sources).sorted, (Model.ofSources sources).notes.map (·.location)⟩ = v := by
  simp only [ofSources, List.isEmpty_iff]
  by_cases h : (Model.ofSources sources).states = []
  case pos => simp [h, throw, throwThe, MonadExceptOf.throw]
  case neg => simp [h, pure, Except.pure]

theorem ofSources_eq_error :
    ofSources sources = .error e ↔ (Model.ofSources sources).states = [] ∧
      .noStates sources.stateLocations = e := by
  simp only [ofSources, List.isEmpty_iff]
  by_cases h : (Model.ofSources sources).states = []
  case pos => simp [h, throw, throwThe, MonadExceptOf.throw]
  case neg => simp [h, pure, Except.pure]

def statesOf (sources : Sources) : List StateDefinition :=
  match ofSources sources with
  | .ok v => v.states
  | .error _ => []

theorem statesOf_eq : statesOf sources = (Model.ofSources sources).sorted := by
  unfold statesOf
  split
  case h_1 v h => exact (ofSources_eq_ok.mp h).right ▸ rfl
  case h_2 e h => simp [Model.sorted, (ofSources_eq_error.mp h).left]

-- An overview tells what an outcome of the same game tells: all states of the model by their ids,
-- those of one id in the order of the files, the array first, and each class file either as a state
-- or as a file that was skipped.
structure Agrees (v : Overview) (sources : Sources) (o : Outcome) : Prop where
  count : o.stateCount = v.states.length
  perm : v.states.Perm (Model.ofSources sources).states
  ascending : v.states.Pairwise fun s t => s.id ≤ t.id
  fileOrder : ∀ id, v.states.filter (·.id = id) =
    (sources.stateArray.toList.flatMap fun f =>
      (StateArray.states f.text f.path).filter (·.id = id)) ++
      (sources.stateClasses.filterMap Model.classState?).filter (·.id = id)
  skipped : v.skipped = (o.diagnostics.filter (·.code = "STATE000")).map (·.location)
  classFiles : ((Model.ofSources sources).states.filter (·.isStateClass)).length +
    v.skipped.length = o.classFileCount

theorem agrees_outcomeOf (he : settings.isEnabled Rule.unknownClass.code)
    (h : ofSources sources = .ok v) :
    v.Agrees sources (outcomeOf settings sources) := by
  have ⟨_, hv⟩ := ofSources_eq_ok.mp h
  rw [← hv]
  constructor
  case count => exact (Model.sorted_perm _).length_eq.symm
  case perm => exact Model.sorted_perm _
  case ascending => exact Model.pairwise_sorted _
  case fileOrder => exact fun id => (Model.filter_id_sorted _ id).trans (Model.filter_id_states id)
  case skipped => exact congrArg (List.map (·.location)) (diagnostics_unknownClass he).symm
  case classFiles => exact (congrArg _ (List.length_map _)).trans Model.length_classes_add_notes

end Overview

namespace ActionListing

theorem render_eq_error :
    render sources label = .error e ↔
      sources.mainScript = none ∧ (Model.ofSources sources).states = [] ∧ .noActions label = e := by
  have hs : (Model.ofSources sources).sorted = [] ↔ (Model.ofSources sources).states = [] := by
    rw [← List.length_eq_zero_iff, (Model.sorted_perm _).length_eq, List.length_eq_zero_iff]
  simp only [render, Option.isNone_iff_eq_none, List.isEmpty_iff, Bool.and_eq_true, hs]
  split
  case isTrue h => simp [h, throw, throwThe, MonadExceptOf.throw]
  case isFalse h =>
    simp only [pure, Except.pure, reduceCtorEq, false_iff]
    exact fun ⟨hm, hn, _⟩ => h ⟨hm, hn⟩

theorem not_isEmpty_actions (s : StateDefinition) :
    (!s.actions.isEmpty) = decide (s.actions ≠ []) := by
  cases s.actions <;> simp

theorem declared_eq (states : List StateDefinition) :
    declared states =
      s!"Declared by states ({(states.filter (·.actions ≠ [])).length}):\n" ++
        if states.filter (·.actions ≠ []) = [] then "  (none)\n"
        else String.join ((states.filter (·.actions ≠ [])).map declared.line) := by
  unfold declared
  simp only [not_isEmpty_actions]
  by_cases hn : states.filter (·.actions ≠ []) = []
  case pos => simp only [hn, List.isEmpty_nil, if_true]
  case neg => rw [if_neg hn, if_neg (mt List.isEmpty_iff.mp hn)]

theorem render_eq_ok (h : render sources label = .ok text) :
    s!"PLAYER ACTIONS: {label}\n{ruleLine}\n\n" ++ (sources.mainScript.map methods).getD "" ++
      declared (Model.ofSources sources).sorted = text := by
  simp only [render] at h
  split at h
  case isTrue => simp [throw, throwThe, MonadExceptOf.throw] at h
  case isFalse => exact Except.ok.inj h

end ActionListing

-- The views of one game agree, unless the findings on class files without a state are switched off:
-- the checks and the overview fail together and for one reason, the listing of the actions fails if
-- both do and there is no main script, and otherwise they tell of the same states.
theorem views_agree (he : settings.isEnabled "STATE000") (label : String) :
    (∀ e, lint settings sources = .error e ↔ Overview.ofSources sources = .error e) ∧
    (∀ e, lint settings sources = .error e → e = .noStates sources.stateLocations) ∧
    (∀ o v, lint settings sources = .ok o → Overview.ofSources sources = .ok v →
      v.Agrees sources o) ∧
    ((∃ e, ActionListing.render sources label = .error e) ↔
      sources.mainScript = none ∧ (∃ e, lint settings sources = .error e) ∧
        ∃ e, Overview.ofSources sources = .error e) ∧
    ∀ text, ActionListing.render sources label = .ok text →
      let listed := (Overview.statesOf sources).filter (·.actions ≠ [])
      text = s!"PLAYER ACTIONS: {label}\n{ruleLine}\n\n" ++
        (sources.mainScript.map ActionListing.methods).getD "" ++
        (s!"Declared by states ({listed.length}):\n" ++
          if listed = [] then "  (none)\n"
          else String.join (listed.map fun s =>
            s!"  [{s.id}] {s.name}: " ++ ", ".intercalate s.actions ++ "\n")) := by
  refine ⟨fun e => ?_, fun e h => ?_, fun o v ho hv => ?_, ?_, fun text h => ?_⟩
  · rw [lint_eq_error, Overview.ofSources_eq_error]
  · exact (lint_eq_error.mp h).right.symm
  · exact (lint_eq_ok.mp ho).right ▸ Overview.agrees_outcomeOf he hv
  · simp [ActionListing.render_eq_error, lint_eq_error, Overview.ofSources_eq_error]
  · rw [← ActionListing.render_eq_ok h, Overview.statesOf_eq, ActionListing.declared_eq]
    rfl

def turnClass : SourceFile :=
  ⟨"A.php", "class A extends GameState id:7 type:StateType::GAME"⟩

def helperGame : Sources :=
  { Sources.empty with stateClasses := [turnClass, ⟨"Util.php", "<?php"⟩] }

theorem turnClass_state : (Model.classState? turnClass).isSome := by
  have ht : turnClass.text.toList = _ := String.toList_ofList
  simp only [Model.classState?, StateClass.state?, ht]
  rfl

theorem helperGame_views :
    ∃ o v, lint .default helperGame = .ok o ∧ Overview.ofSources helperGame = .ok v ∧
      v.Agrees helperGame o ∧ v.skipped = ["Util.php"] := by
  have ⟨s, hs⟩ := Option.isSome_iff_exists.mp turnClass_state
  have hm : (Model.ofSources helperGame).states ≠ [] :=
    Model.states_ne_nil (List.mem_cons_self ..) hs
  have hv := Overview.ofSources_eq_ok.mpr ⟨hm, rfl⟩
  have ho : lint .default helperGame = .ok _ := lint_eq_ok.mpr ⟨hm, rfl⟩
  have hu : Model.classState? ⟨"Util.php", "<?php"⟩ = none := rfl
  have he : Settings.default.isEnabled "STATE000" := by decide
  refine ⟨_, _, ho, hv, (views_agree he "game").right.right.left _ _ ho hv, ?_⟩
  simp [Model.ofSources, helperGame, hs, hu, Model.note, Rule.finding]

end StateLint
