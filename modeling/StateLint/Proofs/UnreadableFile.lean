import StateLint.Project
import StateLint.Proofs.Outcome

namespace StateLint
namespace Sources

variable {fs : FileSystem} {root path label : String} {files : List String} {e : FileError}
  {s : Sources} {results : List (Except UnreadableFile SourceFile)} {f : UnreadableFile}

theorem mem_failed : f ∈ failed results ↔ .error f ∈ results := by
  simp only [failed, List.mem_filterMap]
  constructor
  case mp =>
    intro ⟨r, hr, hf⟩
    cases r with
    | ok _ => simp at hf
    | error g => exact Option.some.inj hf ▸ hr
  case mpr => exact fun h => ⟨_, h, rfl⟩

theorem readFile_of_error (h : fs.read path = .error e) :
    readFile fs path label = .error ⟨label, e.message⟩ := by
  simp only [readFile, h]
  rfl

theorem load_of_unread_array (hf : fs.names .file root = .ok files) (hn : stateArrayFile ∈ files)
    (hr : fs.read (Path.join root stateArrayFile) = .error e) (hs : load fs root = .ok s) :
    s.stateArray = none ∧ ⟨stateArrayFile, e.message⟩ ∈ s.unreadable := by
  have ha : ∀ name ∈ files.filter (· = stateArrayFile),
      readFile fs (Path.join root name) name = .error ⟨stateArrayFile, e.message⟩ := by
    intro name hm
    have hm : name = stateArrayFile := by simpa using (List.mem_filter.mp hm).right
    rw [hm, readFile_of_error hr]
  simp only [load, hf] at hs
  cases hc : loadClasses fs root
  case error => simp [hc, bind, Except.bind] at hs
  case ok classes =>
    simp only [hc, bind, Except.bind, pure, Except.pure, Except.ok.injEq,
      List.map_congr_left ha] at hs
    rw [← hs]
    constructor
    case left => simp [readable, Except.toOption]
    case right => exact mem_failed.mpr (by simp [hn])

end Sources

variable {settings : Settings} {sources : Sources} {f : UnreadableFile}

-- The answer of a run names a path: as the place of a finding on a file that could not be read, or
-- as a place where states were looked for in vain.
def Names (path : String) : Except Failure Outcome → Prop
  | .ok o => ∃ d ∈ o.diagnostics, d.code = Rule.unreadableFile.code ∧ d.location = path
  | .error (.noStates locations) => path ∈ locations
  | .error _ => False

theorem unreadableFile_mem (he : settings.isEnabled Rule.unreadableFile.code)
    (hf : f ∈ sources.unreadable) :
    unreadableFile f ∈ (outcomeOf settings sources).diagnostics := by
  apply mem_diagnostics.mpr
  constructor
  case left => exact mem_findings.mpr (.inl ⟨f, hf, rfl⟩)
  case right => exact he

-- A file that could not be read is named exactly if the other files declare a state, or if its path
-- is also that of a place where states were looked for.
theorem unreadable_named_iff (he : settings.isEnabled Rule.unreadableFile.code)
    (hf : f ∈ sources.unreadable) :
    Names f.path (lint settings sources) ↔
      (Model.ofSources sources).states ≠ [] ∨ f.path ∈ sources.stateLocations := by
  by_cases hs : (Model.ofSources sources).states = []
  case pos =>
    rw [lint_eq_error.mpr ⟨hs, rfl⟩]
    simp [Names, hs]
  case neg =>
    have hn : Names f.path (.ok (outcomeOf settings sources)) :=
      ⟨_, unreadableFile_mem he hf, rfl, rfl⟩
    rw [lint_eq_ok.mpr ⟨hs, rfl⟩]
    simp [hn, hs]

def lockedGame : Sources :=
  Sources.empty.withUnreadable stateArrayFile "permission denied"

theorem lockedGame_unnamed :
    ⟨stateArrayFile, "permission denied"⟩ ∈ lockedGame.unreadable ∧
      lint .default lockedGame = .error (.noStates []) ∧
        ¬Names stateArrayFile (lint .default lockedGame) := by
  have hf : ⟨stateArrayFile, "permission denied"⟩ ∈ lockedGame.unreadable :=
    List.mem_singleton_self _
  refine ⟨hf, lint_eq_error.mpr ⟨rfl, rfl⟩, ?_⟩
  intro hn
  cases (unreadable_named_iff (isEnabled_of_nil rfl _) hf).mp hn
  case inl h => exact h rfl
  case inr h => exact List.not_mem_nil h

end StateLint
