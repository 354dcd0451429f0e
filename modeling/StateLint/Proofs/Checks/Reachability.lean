import StateLint.Proofs.Checks.Graph
import StateLint.Proofs.Checks.Rule
import StateLint.Proofs.Text.Numeral

namespace StateLint.Checks

open Text

variable {settings : Settings} {sources : Sources} {states : List StateDefinition}
  {s t : StateDefinition} {labels : List String}

instance (id : UInt32) : Decidable (Targeted states id) :=
  decidable_of_iff _ mem_targetIds

-- A walk from state to state along transitions, with the labels that it takes. A transition leads
-- to every state of its target's id.
inductive Walk (states : List StateDefinition) :
    StateDefinition → List String → StateDefinition → Prop
  | stay (s : StateDefinition) : Walk states s [] s
  | step {s t u : StateDefinition} {label : String} {labels : List String} :
    s ∈ states → s.transitions.get? label = some t.id → Walk states t labels u →
      Walk states s (label :: labels) u

theorem Walk.targeted (w : Walk states s labels t) (h : labels ≠ []) : Targeted states t.id := by
  induction w
  case stay => contradiction
  case step s t u label labels hs hl w hi =>
    cases w
    case stay => exact ⟨s, hs, label, hl⟩
    case step => exact hi (List.cons_ne_nil _ _)

theorem not_targeted_iff :
    ¬Targeted states s.id ↔ ∀ r labels, Walk states r labels s → labels = [] := by
  constructor
  case mp =>
    intro h r labels w
    by_contra hl
    exact h (w.targeted hl)
  case mpr =>
    intro h ⟨r, hr, label, hl⟩
    exact List.cons_ne_nil label [] (h r [label] (.step hr hl (.stay s)))

theorem unreached_iff :
    Unreached settings states s ↔ ¬settings.isReserved s.id ∧ ¬Targeted states s.id := by
  rw [Unreached, mem_targetIds, and_comm]

theorem mem_brokenOf {label : String} {target : UInt32} :
    (label, target) ∈ brokenOf settings states s ↔
      s.transitions.get? label = some target ∧ ¬Declared states target ∧
        ¬settings.isReserved target := by
  simp only [brokenOf, List.mem_filter, Transitions.mem_toList, mem_declaredIds,
    decide_eq_true_eq, not_or]

theorem pairwise_brokenOf (settings : Settings) (states : List StateDefinition)
    (s : StateDefinition) :
    (brokenOf settings states s).Pairwise fun e f => e.1 < f.1 :=
  s.transitions.ascending.filter _

theorem exists_toList_unreachableState (s : StateDefinition) :
    ∃ u, (unreachableState s).message.toList = u ++ '=' :: numeral s.id ++
      ") is never referenced as a transition target, so it may be unreachable.".toList := by
  refine ⟨"State `".toList ++ (s.name.toList ++ "` (id".toList), ?_⟩
  simp [unreachableState, Rule.finding, toString, numeral]

theorem unreachableState_inj (h : unreachableState s = unreachableState t) : s.id = t.id := by
  have ⟨u, hu⟩ := exists_toList_unreachableState s
  have ⟨v, hv⟩ := exists_toList_unreachableState t
  exact eq_of_last_numeral (c := '=') (by decide)
    (hu.symm.trans ((congrArg (·.message.toList) h).trans hv))

theorem unreachableState_mem_iff (hs : s ∈ states) :
    unreachableState s ∈ battery settings sources states ↔ Unreached settings states s := by
  rw [mem_battery_iff_of_code (r := .unreachableState) rfl, findingsOf, unreachableStates_eq,
    List.mem_map]
  constructor
  case mp =>
    rintro ⟨t, ht, he⟩
    rw [Unreached, ← unreachableState_inj he]
    exact of_decide_eq_true (List.mem_filter.mp ht).right
  case mpr => exact fun h => ⟨s, List.mem_filter.mpr ⟨hs, decide_eq_true h⟩, rfl⟩

-- The graph of the states is checked exactly. Each transition to an id that is neither declared nor
-- reserved is found once, in the order of the states and of their labels, and each state that is
-- not reserved and no target is found once, in the order of the states. These are the states that
-- no walk leads to, whatever its length and wherever it starts.
theorem graphFindings_exact (settings : Settings) (sources : Sources)
    (states : List StateDefinition) :
    (∃ broken : StateDefinition → List (String × UInt32),
      (∀ s, (broken s).Pairwise fun e f => e.1 < f.1) ∧
      (∀ s label target, (label, target) ∈ broken s ↔
        s.transitions.get? label = some target ∧ ¬Declared states target ∧
          ¬settings.isReserved target) ∧
      (battery settings sources states).filter (·.code = "STATE002") = states.flatMap fun s =>
        (broken s).map fun (label, target) => {
          severity := .error
          code := "STATE002"
          location := s.location
          message :=
            s!"State `{s.name}` (id={s.id}): transition `'{label}'` points to id={target} which does not exist."
          hint := some
            "Check the transitions map. The target state ID is not declared anywhere in the project." }) ∧
    ((battery settings sources states).filter (·.code = "STATE003") =
      (states.filter fun s => ¬settings.isReserved s.id ∧ ¬Targeted states s.id).map fun s => {
        severity := .warning
        code := "STATE003"
        location := s.location
        message :=
          s!"State `{s.name}` (id={s.id}) is never referenced as a transition target, so it may be unreachable."
        hint :=
          some "Either another state should transition to this one, or it can be deleted." }) ∧
    ∀ s ∈ states, unreachableState s ∈ battery settings sources states ↔
      ¬settings.isReserved s.id ∧ ∀ r labels, Walk states r labels s → labels = [] := by
  refine ⟨⟨brokenOf settings states, pairwise_brokenOf settings states, fun _ _ _ => mem_brokenOf,
    ?_⟩, ?_, ?_⟩
  · exact (filter_battery .brokenTransition).trans brokenTransitions_eq
  · refine (filter_battery .unreachableState).trans (unreachableStates_eq.trans ?_)
    simp only [unreached_iff]
    rfl
  · intro s hs
    rw [unreachableState_mem_iff hs, unreached_iff, not_targeted_iff]

def pairedState (name label : String) (target : UInt32) : StateDefinition :=
  (StateDefinition.bare 5 name .automatic .stateClass s!"{name}.php").withTransition label target

def strandedState : StateDefinition :=
  (StateDefinition.bare 4 "Stranded" .automatic .stateClass "Stranded.php").withTransition "join" 5

def strandedStates : List StateDefinition :=
  [(pairedState "Ping" "next" 5).withTransition "lost" 8, strandedState,
    pairedState "Pong" "next" 5]

theorem strandedStates_unreached :
    strandedState ∈ strandedStates ∧
      unreachableState strandedState ∈ battery .default Sources.empty strandedStates ∧ ∀ r labels,
      Walk strandedStates r labels strandedState → labels = [] := by
  have listed : strandedState ∈ strandedStates := by decide
  have found : unreachableState strandedState ∈ battery .default Sources.empty strandedStates := by
    decide +kernel
  have ⟨_, _, unreached⟩ := graphFindings_exact .default Sources.empty strandedStates
  exact ⟨listed, found, ((unreached _ listed).mp found).right⟩

end StateLint.Checks
