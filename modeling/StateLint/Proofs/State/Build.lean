import StateLint.Proofs.Commutation
import StateLint.Proofs.FirstOccurrence
import StateLint.Proofs.NormalForm
import StateLint.Proofs.StateArray.Seam
import StateLint.Proofs.Transitions
import StateLint.StateArray.Definition

namespace StateLint

namespace StateDefinition

inductive Step where
  | transition (label : String) (target : UInt32)
  | action (name : String)
  | zombie (present : Bool)
  | className (name : String)
  deriving DecidableEq

inductive StepKind where
  | transition
  | action
  | zombie
  | className
  deriving DecidableEq

namespace Step

def kind : Step → StepKind
  | transition .. => .transition
  | action _ => .action
  | zombie _ => .zombie
  | className _ => .className

def target? (label : String) : Step → Option UInt32
  | transition l target => if l = label then some target else none
  | _ => none

def action? : Step → Option String
  | action name => some name
  | _ => none

def zombie? : Step → Option Bool
  | zombie present => some present
  | _ => none

def className? : Step → Option String
  | className name => some name
  | _ => none

end Step

def apply (s : StateDefinition) : Step → StateDefinition
  | .transition label target => s.withTransition label target
  | .action name => s.withAction name
  | .zombie present => s.withZombie present
  | .className name => s.withClassName name

def build (s : StateDefinition) (steps : List Step) : StateDefinition :=
  steps.foldl apply s

def fixed (s : StateDefinition) : StateDefinition :=
  { s with transitions := .empty, actions := [], hasZombie := false, className := none }

-- A state is what steps have made of one that declared nothing.
structure Reflects (s : StateDefinition) (steps : List Step) : Prop where
  nodup       : s.actions.Nodup
  normal      : ∀ a ∈ s.actions, Action.normalName a = a
  actions     : s.actions = ((steps.filterMap Step.action?).map Action.normalName).eraseDups
  transitions : ∀ label, s.transitions.get? label = steps.reverse.findSome? (Step.target? label)
  zombie      : s.hasZombie = (steps.reverse.findSome? Step.zombie?).getD false
  className   : s.className = steps.reverse.findSome? Step.className?

variable {s : StateDefinition} {steps : List Step} {step : Step}

theorem build_append_singleton : s.build (steps ++ [step]) = (s.build steps).apply step := by
  simp [build]

theorem findSome?_reverse_append {α : Type} (f : Step → Option α) :
    (steps ++ [step]).reverse.findSome? f = (f step).or (steps.reverse.findSome? f) := by
  cases h : f step <;> simp [h]

theorem withAction_eq (s : StateDefinition) (name : String) : s.withAction name =
    { s with
      actions := if Action.normalName name ∈ s.actions then s.actions
        else s.actions ++ [Action.normalName name] } := by
  simp only [withAction]
  split <;> rfl

theorem actions_apply : (s.apply step).actions =
    match step.action? with
    | some name =>
      if Action.normalName name ∈ s.actions then s.actions
        else s.actions ++ [Action.normalName name]
    | none => s.actions := by
  cases step
  case action name => rw [apply, withAction_eq]; rfl
  all_goals rfl

theorem get?_apply {label : String} :
    (s.apply step).transitions.get? label = (step.target? label).or (s.transitions.get? label) := by
  cases step
  case transition l target =>
    refine Transitions.get?_insert.trans ?_
    by_cases h : l = label <;> simp [Step.target?, h]
  case action name => rw [apply, withAction_eq]; rfl
  all_goals rfl

theorem hasZombie_apply : (s.apply step).hasZombie = step.zombie?.getD s.hasZombie := by
  cases step
  case action name => rw [apply, withAction_eq]; rfl
  all_goals rfl

theorem className_apply : (s.apply step).className = step.className?.or s.className := by
  cases step
  case action name => rw [apply, withAction_eq]; rfl
  all_goals rfl

theorem fixed_apply : (s.apply step).fixed = s.fixed := by
  cases step
  case action name => rw [apply, withAction_eq]; rfl
  all_goals rfl

theorem kindsCommute : KindsCommute apply Step.kind := by
  intro s a b h
  cases a <;> cases b <;> try exact absurd rfl h
  all_goals
    simp only [apply, withAction_eq]
    rfl

theorem actions_build (h : s.actions = []) :
    (s.build steps).actions = ((steps.filterMap Step.action?).map Action.normalName).eraseDups := by
  induction steps using List.reverseRecOn
  case nil => exact h
  case append_singleton steps step hi =>
    rw [build_append_singleton, actions_apply, List.filterMap_append, List.map_append]
    cases ha : step.action?
    case none => simp [ha, hi]
    case some name =>
      simp only [hi, List.mem_eraseDups, List.filterMap_cons, List.filterMap_nil, ha, List.map_cons,
        List.map_nil]
      rw [eraseDups_append_singleton]

theorem get?_build {label : String} : (s.build steps).transitions.get? label =
    (steps.reverse.findSome? (Step.target? label)).or (s.transitions.get? label) := by
  induction steps using List.reverseRecOn
  case nil => rfl
  case append_singleton steps step hi =>
    rw [build_append_singleton, get?_apply, hi, findSome?_reverse_append, Option.or_assoc]

theorem hasZombie_build :
    (s.build steps).hasZombie = (steps.reverse.findSome? Step.zombie?).getD s.hasZombie := by
  induction steps using List.reverseRecOn
  case nil => rfl
  case append_singleton steps step hi =>
    rw [build_append_singleton, hasZombie_apply, hi, findSome?_reverse_append]
    cases step.zombie? <;> rfl

theorem className_build :
    (s.build steps).className = (steps.reverse.findSome? Step.className?).or s.className := by
  induction steps using List.reverseRecOn
  case nil => rfl
  case append_singleton steps step hi =>
    rw [build_append_singleton, className_apply, hi, findSome?_reverse_append, Option.or_assoc]

theorem fixed_build : (s.build steps).fixed = s.fixed := by
  induction steps using List.reverseRecOn
  case nil => rfl
  case append_singleton steps step hi => rw [build_append_singleton, fixed_apply, hi]

theorem reflects_build (id : UInt32) (name : String) (kind : StateKind) (layout : Layout)
    (location : String) :
    ((bare id name kind layout location).build steps).Reflects steps where
  nodup := actions_build (s := bare ..) rfl ▸ nodup_eraseDups _
  normal a ha := by
    rw [actions_build rfl, List.mem_eraseDups] at ha
    have ⟨name, _, hn⟩ := List.mem_map.mp ha
    rw [← hn, Action.normalName_normalName]
  actions := actions_build rfl
  transitions _ := get?_build.trans Option.or_none
  zombie := hasZombie_build
  className := className_build.trans Option.or_none

theorem build_append {others : List Step} :
    s.build (steps ++ others) = (s.build steps).build others :=
  List.foldl_append

theorem build_transitions {es : List (String × UInt32)} :
    s.build (es.map fun e => .transition e.1 e.2) =
      { s with transitions := es.foldl (fun t e => t.insert e.1 e.2) s.transitions } := by
  induction es generalizing s
  case nil => rfl
  case cons e es hi => exact hi

theorem build_actions {names : List String} (h : s.actions = []) :
    s.build (names.map .action) =
      { s with actions := (names.map Action.normalName).eraseDups } := by
  induction names using List.reverseRecOn
  case nil => rw [List.map_nil, List.map_nil, List.eraseDups_nil, ← h]; rfl
  case append_singleton names name hi =>
    simp only [List.map_append, List.map_singleton, build_append_singleton, hi, apply,
      withAction_eq, List.mem_eraseDups, eraseDups_append_singleton]

end StateDefinition

namespace StateArray

open Text Reader StateDefinition

variable {b : Block} {s : StateDefinition} {location : String}

def Block.steps (b : Block) : List Step :=
  (((transition.anywhere.findAll (b.list "transitions")).filterMap fun e =>
    (number? e.2).map (e.1, ·)).map
      fun e => .transition e.1 e.2) ++
    (item.anywhere.findAll (b.list "possibleactions")).map .action

def Block.built (b : Block) (location : String) (s : StateDefinition) : StateDefinition :=
  { (bare s.id s.name s.kind .stateArray location).build b.steps with
    description := b.text? "description"
    descriptionMyTurn := b.text? "descriptionmyturn"
    callback := b.text? "action" }

theorem built_of_definition? (h : b.definition? location = some s) : s = b.built location s := by
  simp only [Block.definition?, Option.bind_eq_bind, Option.bind_eq_some_iff, Option.pure_def,
    Option.some.injEq] at h
  obtain ⟨_, _, _, _, h⟩ := h
  rw [Block.built, Block.steps, build_append, build_transitions, build_actions rfl, ← h]
  rfl

-- The state of a block is built by the steps that the block tells of.
theorem reflects_steps_of_definition? (h : b.definition? location = some s) :
    s.Reflects b.steps := by
  rw [built_of_definition? h]
  exact { reflects_build s.id s.name s.kind .stateArray location with }

end StateArray

-- What a state declares is what its steps have declared, whatever their number: a state that is
-- built from nothing, and any state of a state array.
theorem states_reflect_steps :
    (∀ id name kind layout location steps,
      let built := (StateDefinition.bare id name kind layout location).build steps
      built.Reflects steps ∧ built.fixed = .bare id name kind layout location) ∧
    (∀ text location, ∀ s ∈ StateArray.states text location, ∃ b ∈ StateArray.blocks text.toList,
      b.definition? location = some s ∧ s = b.built location s ∧ s.Reflects b.steps) ∧
    (∀ (s : StateDefinition) (a b : StateDefinition.Step), a.kind ≠ b.kind →
      (s.apply a).apply b = (s.apply b).apply a) ∧
    ∀ (s : StateDefinition) (steps others : List StateDefinition.Step),
      (∀ k, steps.filter (·.kind = k) = others.filter (·.kind = k)) →
        s.build steps = s.build others := by
  refine ⟨fun id name kind layout location steps => ⟨?_, ?_⟩, fun text location s hs => ?_, ?_,
    fun s _ _ h => ?_⟩
  · exact StateDefinition.reflects_build ..
  · exact StateDefinition.fixed_build
  · have ⟨b, hb, hd⟩ := List.mem_filterMap.mp hs
    exact ⟨b, hb, hd, StateArray.built_of_definition? hd,
      StateArray.reflects_steps_of_definition? hd⟩
  · exact StateDefinition.kindsCommute
  · exact StateDefinition.kindsCommute.foldl_eq h s

def twofoldArray : String :=
  "2 => [\"name\" => \"a\", \"possibleactions\" => [\"actPass\", \"pass\"]]"

def twofoldState : StateDefinition :=
  { StateDefinition.bare 2 "a" .automatic .stateArray "states.inc.php" with actions := ["pass"] }

open StateDefinition in
theorem twofoldState_reflects :
    (twofoldState ∈ StateArray.states twofoldArray "states.inc.php" ∧
      ∃ b ∈ StateArray.blocks twofoldArray.toList, twofoldState.Reflects b.steps) ∧
    ∀ s : StateDefinition, s.build [.action "pass", .zombie true] =
      s.build [.zombie true, .action "pass"] := by
  let b : StateArray.Block :=
    ⟨['2'], "\"name\" => \"a\", \"possibleactions\" => [\"actPass\", \"pass\"]]".toList⟩
  have ho : StateArray.Block.opening.anywhere.find? twofoldArray.toList = some (b.id, b.body) := by
    decide
  have he : (StateArray.Block.ending.anywhere.split b.body).1 = b.body := by decide
  have hb : b ∈ StateArray.blocks twofoldArray.toList := by
    rw [StateArray.blocks_of_some ho, he]
    exact List.mem_cons_self
  have hd : b.definition? "states.inc.php" = some twofoldState := by decide +kernel
  have hs : twofoldState ∈ StateArray.states twofoldArray "states.inc.php" :=
    List.mem_filterMap.mpr ⟨b, hb, hd⟩
  have ⟨b, hb, _, _, hr⟩ := states_reflect_steps.right.left _ _ _ hs
  exact ⟨⟨hs, b, hb, hr⟩,
    fun s => states_reflect_steps.right.right.right s _ _ fun k => by cases k <;> rfl⟩

end StateLint
