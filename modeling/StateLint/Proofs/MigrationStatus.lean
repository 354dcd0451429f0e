import StateLint.Proofs.Migration
import StateLint.Proofs.ServerScript.Function
import StateLint.Proofs.Text.Numeral

namespace StateLint

open Text Reader

namespace MigrationNotes

variable {m n : MigrationNotes} {count : Nat} {text : String}

@[simp]
theorem details_append : (m ++ n).details = m.details ++ n.details := rfl

@[simp]
theorem modern_nothing : nothing.modern = [] := rfl

@[simp]
theorem modern_modernNote : (modernNote text).modern = [text] := rfl

@[simp]
theorem modern_pendingNote : (pendingNote text).modern = [] := rfl

@[simp]
theorem modern_detail : (detail text).modern = [] := rfl

@[simp]
theorem modern_ifAny : (ifAny count m).modern = [] ↔ count = 0 ∨ m.modern = [] := by
  by_cases h : 0 < count
  case pos => simp [ifAny, h, Nat.ne_of_gt h]
  case neg => simp [ifAny, Nat.eq_zero_of_not_pos h]

end MigrationNotes

theorem StateClass.markerCount_eq_zero {text : String} :
    markerCount text = 0 ↔ ¬hasMarker text := by
  rw [markerCount, hasMarker, List.length_eq_zero_iff, Pattern.places_eq_nil]

namespace Migration

open MigrationNotes

variable {settings : Settings} {sources : Sources} {f : SourceFile} {text : String}

-- The method that sets the game up is seen to return a class.
def ReturnsClass (text : String) : Prop :=
  ∃ value, ServerScript.setupReturn? text = some value ∧ mentions "::class" value.toList

structure NoOlderForms (sources : Sources) : Prop where
  stateArray    : sources.stateArray = none
  checks        : ∀ f ∈ sources.mainScript, ¬(callOf "checkAction").anywhere.occursIn f.text.toList
  changes       : ∀ f ∈ sources.mainScript, ¬nextStateCall.anywhere.occursIn f.text.toList
  setup         : ∀ f ∈ sources.mainScript, ¬mentions "setupNewGame" f.text.toList ∨
    ReturnsClass f.text
  subscriptions : ∀ f ∈ sources.clientScript,
    ¬(literal "notifqueue.subscribe").anywhere.occursIn f.text.toList
  ajaxCalls     : ∀ f ∈ sources.clientScript, ¬(callOf "ajaxcall").anywhere.occursIn f.text.toList

-- A game without forms of the newer framework. That it has no state array counts as such a form.
structure NoNewerForms (sources : Sources) : Prop where
  stateArray   : sources.stateArray ≠ none
  classes      : ¬(sources.classDirectory ≠ none ∧ sources.stateClasses ≠ [])
  setup        : ∀ f ∈ sources.mainScript, ¬ReturnsClass f.text
  markers      : ∀ f ∈ sources.mainScript, ¬StateClass.hasMarker f.text
  classMarkers : ∀ f ∈ sources.stateClasses, ¬StateClass.hasMarker f.text
  promises     : ∀ f ∈ sources.clientScript,
    ¬(literal "bgaSetupPromiseNotifications").anywhere.occursIn f.text.toList
  actionCalls  : ∀ f ∈ sources.clientScript,
    ¬(callOf "bgaPerformAction").anywhere.occursIn f.text.toList

def unreserved (settings : Settings) (sources : Sources) : List StateDefinition :=
  (sources.stateArray.toList.flatMap fun f => StateArray.states f.text f.path).filter fun s =>
    !settings.isReserved s.id

theorem mentions_of_setupReturn? {value : String}
    (h : ServerScript.setupReturn? text = some value) :
    mentions "setupNewGame" text.toList := by
  rw [mentions_iff (by decide)]
  by_contra hn
  have hs : ServerScript.setupReturn =
      ServerScript.methodNamed "setupNewGame" (skipAtMost ServerScript.returned 500) :=
    rfl
  rw [ServerScript.setupReturn?, hs, ServerScript.find?_methodNamed_eq_none hn] at h
  contradiction

theorem currentMainScript_iff :
    CurrentMainScript text ↔
      ¬(callOf "checkAction").anywhere.occursIn text.toList ∧
        ¬nextStateCall.anywhere.occursIn text.toList ∧
        (¬mentions "setupNewGame" text.toList ∨ ReturnsClass text) := by
  constructor
  case mp =>
    intro h
    refine ⟨h.noChecks, h.noChanges, ?_⟩
    cases hv : ServerScript.setupReturn? text
    case none => exact .inl (h.returns hv)
    case some value => exact .inr ⟨value, hv, h.returnsClass value hv⟩
  case mpr =>
    intro ⟨hc, hn, hs⟩
    refine ⟨hc, hn, fun value hv => ?_, fun hv => ?_⟩
    · have ⟨w, hw, hm⟩ := hs.resolve_left (not_not_intro (mentions_of_setupReturn? hv))
      cases hv.symm.trans hw
      exact hm
    · apply hs.resolve_right
      intro ⟨w, hw, _⟩
      cases hv.symm.trans hw

theorem fullyMigrated_iff_noOlderForms :
    (ofSources settings sources).status = .fullyMigrated ↔ NoOlderForms sources := by
  simp only [fullyMigrated_iff, currentMainScript_iff]
  constructor
  case mp =>
    intro ⟨ha, hm, hc⟩
    exact ⟨ha, fun f hf => (hm f hf).left, fun f hf => (hm f hf).right.left,
      fun f hf => (hm f hf).right.right, fun f hf => (hc f hf).noSubscriptions, fun f hf =>
      (hc f hf).noAjaxCalls⟩
  case mpr =>
    intro h
    exact ⟨h.stateArray, fun f hf => ⟨h.checks f hf, h.changes f hf, h.setup f hf⟩,
      fun f hf => ⟨h.subscriptions f hf, h.ajaxCalls f hf⟩⟩

theorem modern_setupNotes : (setupNotes f).modern = [] ↔ ¬ReturnsClass f.text := by
  simp only [setupNotes, ReturnsClass]
  cases ServerScript.setupReturn? f.text
  case some value => by_cases h : mentions "::class" value.toList <;> simp [h]
  case none => by_cases h : mentions "setupNewGame" f.text.toList <;> simp [h]

theorem modern_mainScriptNotes :
    (mainScriptNotes f).modern = [] ↔ ¬ReturnsClass f.text ∧ ¬StateClass.hasMarker f.text := by
  simp only [mainScriptNotes, modern_append, List.append_eq_nil_iff, modern_ifAny,
    modern_pendingNote, modern_modernNote, List.cons_ne_nil, or_false, or_true, true_and,
    modern_setupNotes, StateClass.markerCount_eq_zero]

theorem modern_clientScriptNotes :
    (clientScriptNotes f).modern = [] ↔
      ¬(literal "bgaSetupPromiseNotifications").anywhere.occursIn f.text.toList ∧
        ¬(callOf "bgaPerformAction").anywhere.occursIn f.text.toList := by
  simp only [clientScriptNotes, modern_append, List.append_eq_nil_iff, modern_ifAny,
    modern_pendingNote, modern_modernNote, List.cons_ne_nil, or_false, or_true, true_and, and_true,
    occurrences_eq_zero]

theorem modern_stateArrayNotes :
    (stateArrayNotes settings sources.stateArray).modern = [] ↔ sources.stateArray ≠ none := by
  cases sources.stateArray
  case none => simp [stateArrayNotes]
  case some f =>
    simp only [stateArrayNotes, modern_append, modern_pendingNote]
    split <;> simp

theorem modern_classDirectoryNotes :
    (classDirectoryNotes sources).modern = [] ↔
      ¬(sources.classDirectory ≠ none ∧ sources.stateClasses ≠ []) := by
  simp only [classDirectoryNotes]
  cases sources.classDirectory
  case none => simp
  case some directory => by_cases hc : sources.stateClasses = [] <;> simp [hc]

theorem modern_classMarkerNotes {files : List SourceFile} :
    (classMarkerNotes files).modern = [] ↔ ∀ f ∈ files, ¬StateClass.hasMarker f.text := by
  have sum : files.foldl (fun n f => n + StateClass.markerCount f.text) 0 =
      (files.map fun f => StateClass.markerCount f.text).sum := by
    rw [List.sum_eq_foldl, List.foldl_map]
  simp only [classMarkerNotes, modern_ifAny, modern_modernNote, List.cons_ne_nil, or_false, sum,
    List.sum_eq_zero_iff_forall_eq_nat, List.forall_mem_map, StateClass.markerCount_eq_zero]

theorem modern_getD {notesOf : SourceFile → MigrationNotes} {file : Option SourceFile} :
    ((file.map notesOf).getD nothing).modern = [] ↔ ∀ f ∈ file, (notesOf f).modern = [] := by
  cases file <;> simp

theorem modern_notes : (notes settings sources).modern = [] ↔ NoNewerForms sources := by
  simp only [notes, modern_append, List.append_eq_nil_iff, modern_stateArrayNotes,
    modern_classDirectoryNotes, modern_getD, modern_mainScriptNotes, modern_classMarkerNotes,
    modern_clientScriptNotes]
  constructor
  case mp =>
    rintro ⟨⟨⟨⟨ha, hd⟩, hm⟩, hf⟩, hc⟩
    exact ⟨ha, hd, fun f h => (hm f h).left, fun f h => (hm f h).right, hf,
      fun f h => (hc f h).left, fun f h => (hc f h).right⟩
  case mpr =>
    intro h
    exact ⟨⟨⟨⟨h.stateArray, h.classes⟩, fun f hf => ⟨h.setup f hf, h.markers f hf⟩⟩,
      h.classMarkers⟩, fun f hf => ⟨h.promises f hf, h.actionCalls f hf⟩⟩

theorem modern_or_pending :
    (notes settings sources).modern ≠ [] ∨ (notes settings sources).pending ≠ [] := by
  by_cases h : sources.stateArray = none
  case pos => exact .inl (List.ne_nil_of_mem (arrayNotFound_mem h))
  case neg => exact .inr fun hp => h (pending_notes.mp hp).left

theorem statusOf_eq_notStarted {modern pending : List String} :
    statusOf modern pending = .notStarted ↔ modern = [] ∧ pending ≠ [] := by
  cases modern <;> cases pending <;> simp [statusOf]

theorem notStarted_iff_noNewerForms :
    (ofSources settings sources).status = .notStarted ↔ NoNewerForms sources := by
  rw [← @modern_notes settings, ofSources, statusOf_eq_notStarted]
  constructor
  case mp => exact And.left
  case mpr => exact fun h => ⟨h, modern_or_pending.resolve_left (not_not_intro h)⟩

def entryOf (s : StateDefinition) : String :=
  s!"`{s.name}` (id={s.id})"

def entriesOf (states : List StateDefinition) : String :=
  ", ".intercalate (states.map entryOf)

section

variable {states ss ts : List StateDefinition} {s t : StateDefinition}

theorem entryOf_ne_empty : entryOf s ≠ "" := by
  intro h
  have hl := congrArg String.toList h
  simp [entryOf, toString] at hl

theorem entriesOf_append_singleton :
    entriesOf (ss ++ [s]) = (if ss = [] then "" else entriesOf ss ++ ", ") ++ entryOf s := by
  split
  case isTrue h => simp [entriesOf, h]
  case isFalse h =>
    rw [entriesOf, List.map_append,
      String.intercalate_append_of_ne_nil (by simpa using h) (by simp)]
    simp [entriesOf]

theorem entriesOf_eq_empty : entriesOf ss = "" ↔ ss = [] := by
  cases List.eq_nil_or_concat ss
  case inl h => simp [h, entriesOf]
  case inr h =>
    have ⟨us, s, h⟩ := h
    simp [h, entriesOf_append_singleton, String.append_eq_empty_iff, entryOf_ne_empty]

theorem exists_toList_entriesOf (ss : List StateDefinition) (s : StateDefinition) :
    ∃ u, (entriesOf (ss ++ [s])).toList = (u ++ '=' :: numeral s.id) ++ [')'] := by
  refine ⟨(if ss = [] then "" else entriesOf ss ++ ", ").toList ++
    '`' :: (s.name.toList ++ "` (id".toList), ?_⟩
  rw [entriesOf_append_singleton, String.toList_append]
  simp [entryOf, toString, numeral]

theorem id_eq_of_entriesOf_eq (h : entriesOf (ss ++ [s]) = entriesOf (ts ++ [t])) :
    s.id = t.id := by
  have ⟨u, hu⟩ := exists_toList_entriesOf ss s
  have ⟨v, hv⟩ := exists_toList_entriesOf ts t
  exact eq_of_last_numeral (c := '=') (by decide)
    (hu.symm.trans ((congrArg String.toList h).trans hv))

theorem entriesOf_append_singleton_inj (h : entriesOf (ss ++ [s]) = entriesOf (ts ++ [s])) :
    entriesOf ss = entriesOf ts := by
  simp only [entriesOf_append_singleton, String.append_left_inj] at h
  by_cases hs : ss = [] <;> by_cases ht : ts = [] <;> simp_all

variable {p q : UInt32 → Bool}

theorem entriesOf_ne (hq : q s.id = false) :
    entriesOf (ss ++ [s]) ≠ entriesOf (ts.filter fun t => q t.id) := by
  intro h
  cases List.eq_nil_or_concat (ts.filter fun t => q t.id)
  case inl hn =>
    rw [hn] at h
    exact absurd (entriesOf_eq_empty.mp h) (by simp)
  case inr hn =>
    have ⟨us, t, hn⟩ := hn
    have ht : t ∈ ts.filter fun t => q t.id := by simp [hn]
    rw [hn, List.concat_eq_append] at h
    have hq' := (List.mem_filter.mp ht).right
    simp [← id_eq_of_entriesOf_eq h, hq] at hq'

theorem filter_eq_of_entriesOf_eq
    (h : entriesOf (states.filter fun s => p s.id) = entriesOf (states.filter fun s => q s.id)) :
    (states.filter fun s => p s.id) = states.filter fun s => q s.id := by
  induction states using List.reverseRecOn
  case nil => rfl
  case append_singleton states s hi =>
    simp only [List.filter_append] at h ⊢
    cases hp : p s.id <;> cases hq : q s.id <;>
      simp only [hp, hq, List.filter_cons, List.filter_nil, if_true, Bool.false_eq_true, if_false,
      List.append_nil] at h ⊢
    case false.false => exact hi h
    case false.true => exact absurd h.symm (entriesOf_ne hp)
    case true.false => exact absurd h (entriesOf_ne hq)
    case true.true => rw [hi (entriesOf_append_singleton_inj h)]

end

section

variable {other : Settings} {file : Option SourceFile}

theorem stateArrayNotes_agnostic :
    (stateArrayNotes settings file).modern = (stateArrayNotes other file).modern ∧
      (stateArrayNotes settings file).pending = (stateArrayNotes other file).pending := by
  cases file
  case none => exact ⟨rfl, rfl⟩
  case some f =>
    simp only [stateArrayNotes, modern_append, pending_append]
    constructor <;> split <;> split <;> rfl

theorem details_stateArrayNotes :
    (stateArrayNotes settings sources.stateArray).details =
      if (unreserved settings sources).isEmpty then [] else
        ["States to convert: " ++ entriesOf (unreserved settings sources)] := by
  cases ha : sources.stateArray
  case none =>
    have hu : unreserved settings sources = [] := by simp [unreserved, ha]
    rw [hu]
    rfl
  case some f =>
    have hu : unreserved settings sources =
        (StateArray.states f.text f.path).filter fun s => !settings.isReserved s.id := by
      simp [unreserved, ha]
    rw [hu, stateArrayNotes, details_append]
    split <;> rfl

theorem details_stateArrayNotes_inj :
    (stateArrayNotes settings sources.stateArray).details =
      (stateArrayNotes other sources.stateArray).details ↔
      unreserved settings sources = unreserved other sources := by
  rw [details_stateArrayNotes, details_stateArrayNotes]
  constructor
  case mp =>
    intro h
    have he : entriesOf (unreserved settings sources) = entriesOf (unreserved other sources) := by
      by_cases hs : unreserved settings sources = [] <;>
        by_cases ho : unreserved other sources = [] <;>
        simp_all [String.append_right_inj]
    exact filter_eq_of_entriesOf_eq (p := fun id => !settings.isReserved id) (q := fun id =>
      !other.isReserved id) he
  case mpr => exact fun h => by rw [h]

end

-- The status of a report: a game is fully migrated if it has no older forms, not yet started if it
-- has no newer forms, and partially migrated in all other cases, for it always has one of both. The
-- settings have a say in the details only: these are the same exactly if the same states of the
-- state array are not reserved.
theorem status_iff (settings : Settings) (sources : Sources) :
    ((ofSources settings sources).status = .fullyMigrated ↔ NoOlderForms sources) ∧
      ((ofSources settings sources).status = .notStarted ↔ NoNewerForms sources) ∧
      ((ofSources settings sources).status = .partiallyMigrated ↔
        ¬NoOlderForms sources ∧ ¬NoNewerForms sources) ∧
      ¬((ofSources settings sources).modern = [] ∧ (ofSources settings sources).pending = []) ∧
      ∀ other : Settings,
        (ofSources settings sources).status = (ofSources other sources).status ∧
          (ofSources settings sources).modern = (ofSources other sources).modern ∧
          (ofSources settings sources).pending = (ofSources other sources).pending ∧
          ((ofSources settings sources).details = (ofSources other sources).details ↔
            unreserved settings sources = unreserved other sources) := by
  have full := @fullyMigrated_iff_noOlderForms settings sources
  have fresh := @notStarted_iff_noNewerForms settings sources
  refine ⟨full, fresh, ?mixed, not_and_or.mpr modern_or_pending, fun other => ?settings⟩
  case mixed =>
    rw [← full, ← fresh]
    cases (ofSources settings sources).status <;> simp
  case settings =>
    have modern : (notes settings sources).modern = (notes other sources).modern := by
      simp only [notes, modern_append, (@stateArrayNotes_agnostic settings other _).left]
    have pending : (notes settings sources).pending = (notes other sources).pending := by
      simp only [notes, pending_append, (@stateArrayNotes_agnostic settings other _).right]
    refine ⟨?_, modern, pending, ?_⟩
    · simp only [ofSources, modern, pending]
    · simp only [ofSources, notes, details_append, List.append_assoc, List.append_left_inj,
        details_stateArrayNotes_inj]

end Migration
end StateLint
