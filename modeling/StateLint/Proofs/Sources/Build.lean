import Mathlib.Data.List.Induction
import StateLint.ActionListing
import StateLint.Migration
import StateLint.Outcome
import StateLint.Proofs.Commutation

namespace StateLint.Sources

inductive Step where
  | stateArray (path text : String)
  | stateClass (path text : String)
  | classDirectory (path : String)
  | clientScript (path text : String)
  | mainScript (path text : String)
  | serverScript (path text : String)
  | unreadable (path reason : String)
  deriving DecidableEq

inductive StepKind where
  | stateArray
  | stateClass
  | classDirectory
  | clientScript
  | mainScript
  | serverScript
  | unreadable
  deriving DecidableEq

namespace Step

def kind : Step → StepKind
  | stateArray .. => .stateArray
  | stateClass .. => .stateClass
  | classDirectory _ => .classDirectory
  | clientScript .. => .clientScript
  | mainScript .. => .mainScript
  | serverScript .. => .serverScript
  | unreadable .. => .unreadable

def file? : StepKind → Step → Option SourceFile
  | .stateArray, stateArray path text
  | .stateClass, stateClass path text
  | .clientScript, clientScript path text
  | .mainScript, mainScript path text
  | .serverScript, serverScript path text => some ⟨path, text⟩
  | _, _ => none

def directory? : Step → Option String
  | classDirectory path => some path
  | _ => none

def unreadable? : Step → Option UnreadableFile
  | unreadable path reason => some ⟨path, reason⟩
  | _ => none

end Step

def apply (s : Sources) : Step → Sources
  | .stateArray path text => s.withStateArray path text
  | .stateClass path text => s.withStateClass path text
  | .classDirectory path => s.withClassDirectory path
  | .clientScript path text => s.withClientScript path text
  | .mainScript path text => s.withMainScript path text
  | .serverScript path text => s.withServerScript path text
  | .unreadable path reason => s.withUnreadable path reason

def build (s : Sources) (steps : List Step) : Sources :=
  steps.foldl apply s

def after (s : Sources) (steps : List Step) : Sources where
  stateArray := (steps.filterMap (Step.file? .stateArray)).getLast?.or s.stateArray
  stateClasses := s.stateClasses ++ steps.filterMap (Step.file? .stateClass)
  classDirectory := (steps.filterMap Step.directory?).getLast?.or s.classDirectory
  clientScript := (steps.filterMap (Step.file? .clientScript)).getLast?.or s.clientScript
  mainScript := (steps.filterMap (Step.file? .mainScript)).getLast?.or s.mainScript
  serverScripts := s.serverScripts ++ steps.filterMap (Step.file? .serverScript)
  unreadable := s.unreadable ++ steps.filterMap Step.unreadable?

variable {s : Sources} {steps others : List Step} {step : Step}

theorem build_append_singleton : s.build (steps ++ [step]) = (s.build steps).apply step := by
  simp [build]

theorem after_nil : s.after [] = s := by
  simp [after]

theorem after_append_singleton : s.after (steps ++ [step]) = (s.after steps).apply step := by
  cases step <;>
    simp [after, apply, Step.file?, Step.directory?, Step.unreadable?, withStateArray,
      withStateClass, withClassDirectory, withClientScript, withMainScript, withServerScript,
      withUnreadable]

theorem build_eq_after : s.build steps = s.after steps := by
  induction steps using List.reverseRecOn
  case nil => exact after_nil.symm
  case append_singleton steps step hi => rw [build_append_singleton, hi, after_append_singleton]

theorem kindsCommute : KindsCommute apply Step.kind := by
  intro s a b h
  cases a <;> cases b <;> first | rfl | exact absurd rfl h

-- Steps may be taken in any order that keeps those of each kind in theirs: the sources that are
-- gathered are the same, and so is whatever the checks, the overview, the report on the migration
-- and the listing of actions have to say of them.
theorem build_reordered :
    (∀ (s : Sources) (steps : List Step), s.build steps = s.after steps) ∧
    (∀ (s : Sources) (a b : Step), a.kind ≠ b.kind → (s.apply a).apply b = (s.apply b).apply a) ∧
    ∀ (steps others : List Step), (∀ k, steps.filter (·.kind = k) = others.filter (·.kind = k)) →
      ∀ s : Sources, s.build steps = s.build others ∧
      (∀ settings, lint settings (s.build steps) = lint settings (s.build others)) ∧
      Overview.ofSources (s.build steps) = Overview.ofSources (s.build others) ∧
      (∀ settings, Migration.ofSources settings (s.build steps) =
        Migration.ofSources settings (s.build others)) ∧
      ∀ label, ActionListing.render (s.build steps) label =
        ActionListing.render (s.build others) label := by
  refine ⟨fun s steps => build_eq_after, kindsCommute, fun steps others h s => ?_⟩
  have same : s.build steps = s.build others := kindsCommute.foldl_eq h s
  exact ⟨same, fun _ => by rw [same], by rw [same], fun _ => by rw [same], fun _ => by rw [same]⟩

def scatteredSteps : List Step :=
  [.serverScript "material.inc.php" "", .stateClass "A.php" "", .mainScript "a.game.php" "",
    .stateClass "B.php" "", .stateArray "states.inc.php" "", .mainScript "Game.php" "",
    .serverScript "stats.inc.php" ""]

def sortedSteps : List Step :=
  [.stateArray "states.inc.php" "", .mainScript "a.game.php" "", .mainScript "Game.php" "",
    .serverScript "material.inc.php" "", .serverScript "stats.inc.php" "", .stateClass "A.php" "",
      .stateClass "B.php" ""]

theorem scatteredSteps_sorted :
    (empty.apply (.stateClass "A.php" "")).apply (.mainScript "Game.php" "") =
        (empty.apply (.mainScript "Game.php" "")).apply (.stateClass "A.php" "") ∧
      empty.build scatteredSteps = empty.build sortedSteps ∧
      (empty.build scatteredSteps).serverFiles.map (·.path) =
        ["states.inc.php", "Game.php", "material.inc.php", "stats.inc.php", "A.php", "B.php"] :=
  ⟨build_reordered.right.left empty _ _ (by decide),
    (build_reordered.right.right scatteredSteps sortedSteps (fun k => by cases k <;> rfl)
      empty).left, rfl⟩

end StateLint.Sources
