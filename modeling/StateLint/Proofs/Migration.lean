import StateLint.Migration
import StateLint.Proofs.Text.Pattern
import StateLint.Proofs.UnreadableFile

namespace StateLint

open Text Reader

namespace MigrationNotes

variable {m n : MigrationNotes} {count : Nat} {text : String}

@[simp]
theorem modern_append : (m ++ n).modern = m.modern ++ n.modern := rfl

@[simp]
theorem pending_append : (m ++ n).pending = m.pending ++ n.pending := rfl

@[simp]
theorem pending_nothing : nothing.pending = [] := rfl

@[simp]
theorem pending_modernNote : (modernNote text).pending = [] := rfl

@[simp]
theorem pending_pendingNote : (pendingNote text).pending = [text] := rfl

@[simp]
theorem pending_detail : (detail text).pending = [] := rfl

@[simp]
theorem pending_ifAny : (ifAny count m).pending = [] ↔ count = 0 ∨ m.pending = [] := by
  by_cases h : 0 < count
  case pos => simp [ifAny, h, Nat.ne_of_gt h]
  case neg => simp [ifAny, Nat.eq_zero_of_not_pos h]

end MigrationNotes

namespace Migration

open MigrationNotes

variable {settings : Settings} {sources : Sources} {f : SourceFile} {shape : Reader Unit}
  {text reason : String}

theorem occurrences_eq_zero :
    occurrences shape text = 0 ↔ ¬shape.anywhere.occursIn text.toList := by
  rw [occurrences, List.length_eq_zero_iff, Pattern.places_eq_nil]

theorem statusOf_eq_fullyMigrated {modern pending : List String} :
    statusOf modern pending = .fullyMigrated ↔ modern ≠ [] ∧ pending = [] := by
  cases modern <;> cases pending <;> simp [statusOf]

-- A main script without older forms: it neither checks actions nor changes the state by hand, and
-- if it sets the game up, it names the first state by its class.
structure CurrentMainScript (text : String) : Prop where
  noChecks : ¬(callOf "checkAction").anywhere.occursIn text.toList
  noChanges : ¬nextStateCall.anywhere.occursIn text.toList
  returnsClass : ∀ value, ServerScript.setupReturn? text = some value →
    mentions "::class" value.toList
  returns : ServerScript.setupReturn? text = none → ¬mentions "setupNewGame" text.toList

structure CurrentClientScript (text : String) : Prop where
  noSubscriptions : ¬(literal "notifqueue.subscribe").anywhere.occursIn text.toList
  noAjaxCalls : ¬(callOf "ajaxcall").anywhere.occursIn text.toList

theorem pending_setupNotes :
    (setupNotes f).pending = [] ↔
      (∀ value, ServerScript.setupReturn? f.text = some value → mentions "::class" value.toList) ∧
        (ServerScript.setupReturn? f.text = none → ¬mentions "setupNewGame" f.text.toList) := by
  simp only [setupNotes]
  cases ServerScript.setupReturn? f.text
  case some value => by_cases h : mentions "::class" value.toList <;> simp [h]
  case none => by_cases h : mentions "setupNewGame" f.text.toList <;> simp [h]

theorem pending_mainScriptNotes : (mainScriptNotes f).pending = [] ↔ CurrentMainScript f.text := by
  simp only [mainScriptNotes, pending_append, List.append_eq_nil_iff, pending_ifAny,
    pending_pendingNote, pending_modernNote, List.cons_ne_nil, or_false, or_true, and_true,
    occurrences_eq_zero, pending_setupNotes]
  constructor
  case mp => exact fun ⟨⟨hc, hn⟩, hv, hr⟩ => ⟨hc, hn, hv, hr⟩
  case mpr => exact fun h => ⟨⟨h.noChecks, h.noChanges⟩, h.returnsClass, h.returns⟩

theorem pending_clientScriptNotes :
    (clientScriptNotes f).pending = [] ↔ CurrentClientScript f.text := by
  simp only [clientScriptNotes, pending_append, List.append_eq_nil_iff, pending_ifAny,
    pending_pendingNote, pending_modernNote, List.cons_ne_nil, or_false, or_true, and_true,
    occurrences_eq_zero]
  constructor
  case mp => exact fun ⟨hs, ha⟩ => ⟨hs, ha⟩
  case mpr => exact fun h => ⟨h.noSubscriptions, h.noAjaxCalls⟩

theorem pending_stateArrayNotes :
    (stateArrayNotes settings sources.stateArray).pending = [] ↔ sources.stateArray = none := by
  cases sources.stateArray <;> simp [stateArrayNotes]

theorem pending_classMarkerNotes {files : List SourceFile} :
    (classMarkerNotes files).pending = [] := by
  simp [classMarkerNotes]

theorem pending_classDirectoryNotes (h : sources.stateArray = none) :
    (classDirectoryNotes sources).pending = [] := by
  simp only [classDirectoryNotes, h]
  cases sources.classDirectory
  case none => rfl
  case some directory => by_cases hc : sources.stateClasses.isEmpty <;> simp [hc]

theorem pending_getD {notesOf : SourceFile → MigrationNotes} {file : Option SourceFile} :
    ((file.map notesOf).getD nothing).pending = [] ↔ ∀ f ∈ file, (notesOf f).pending = [] := by
  cases file <;> simp

-- Nothing is pending exactly if there is no state array and neither script has an older form.
theorem pending_notes :
    (notes settings sources).pending = [] ↔
      sources.stateArray = none ∧ (∀ f ∈ sources.mainScript, CurrentMainScript f.text) ∧
        ∀ f ∈ sources.clientScript, CurrentClientScript f.text := by
  simp only [notes, pending_append, List.append_eq_nil_iff, pending_stateArrayNotes, pending_getD,
    pending_mainScriptNotes, pending_classMarkerNotes, pending_clientScriptNotes]
  constructor
  case mp => exact fun ⟨⟨⟨⟨ha, _⟩, hm⟩, _⟩, hc⟩ => ⟨ha, hm, hc⟩
  case mpr => exact fun ⟨ha, hm, hc⟩ => ⟨⟨⟨⟨ha, pending_classDirectoryNotes ha⟩, hm⟩, trivial⟩, hc⟩

def arrayNotFound : String :=
  "`states.inc.php` not found: states are likely managed by State classes already."

theorem arrayNotFound_mem (h : sources.stateArray = none) :
    arrayNotFound ∈ (notes settings sources).modern := by
  simp [notes, stateArrayNotes, h, modernNote, arrayNotFound]

theorem fullyMigrated_iff :
    (ofSources settings sources).status = .fullyMigrated ↔
      sources.stateArray = none ∧ (∀ f ∈ sources.mainScript, CurrentMainScript f.text) ∧
        ∀ f ∈ sources.clientScript, CurrentClientScript f.text := by
  rw [← @pending_notes settings, ofSources, statusOf_eq_fullyMigrated]
  constructor
  case mp => exact And.right
  case mpr =>
    intro h
    exact ⟨List.ne_nil_of_mem (arrayNotFound_mem (pending_notes.mp h).left), h⟩

-- A state array that could not be read is a finding of the checks. The report says that there is
-- none, and whether the game is fully migrated is up to the two scripts.
theorem unread_array_not_found (settings : Settings)
    (hu : ⟨stateArrayFile, reason⟩ ∈ sources.unreadable) (ha : sources.stateArray = none) :
    unreadableFile ⟨stateArrayFile, reason⟩ ∈ findings settings sources ∧
      arrayNotFound ∈ (ofSources settings sources).modern ∧
        ((ofSources settings sources).status = .fullyMigrated ↔
          (∀ f ∈ sources.mainScript, CurrentMainScript f.text) ∧
            ∀ f ∈ sources.clientScript, CurrentClientScript f.text) := by
  refine ⟨mem_findings.mpr (.inl ⟨_, hu, rfl⟩), arrayNotFound_mem ha, ?_⟩
  simp [fullyMigrated_iff, ha]

theorem lockedGame_fullyMigrated :
    ⟨stateArrayFile, "permission denied"⟩ ∈ lockedGame.unreadable ∧
      arrayNotFound ∈ (ofSources .default lockedGame).modern ∧
        (ofSources .default lockedGame).status = .fullyMigrated := by
  have hu : ⟨stateArrayFile, "permission denied"⟩ ∈ lockedGame.unreadable :=
    List.mem_singleton_self _
  have hm : lockedGame.mainScript = none := rfl
  have hc : lockedGame.clientScript = none := rfl
  have ⟨_, hn, hs⟩ := unread_array_not_found .default hu rfl
  exact ⟨hu, hn, hs.mpr ⟨by simp [hm], by simp [hc]⟩⟩

end Migration
end StateLint
