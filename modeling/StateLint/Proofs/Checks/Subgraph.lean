import StateLint.Proofs.Checks.Reachability

namespace StateLint

-- A list of which the entries are those of two others, each in its order.
inductive Interleaves {α : Type} : List α → List α → List α → Prop
  | nil : Interleaves [] [] []
  | left {l m n : List α} (a : α) : Interleaves l m n → Interleaves (a :: l) m (a :: n)
  | right {l m n : List α} (a : α) : Interleaves l m n → Interleaves l (a :: m) (a :: n)

namespace Interleaves

variable {α β : Type} {l m n : List α}

theorem mem_iff (h : Interleaves l m n) {a : α} : a ∈ n ↔ a ∈ l ∨ a ∈ m := by
  induction h
  case nil => simp
  case left _ hi => simp only [List.mem_cons, hi, or_assoc]
  case right _ hi => simp only [List.mem_cons, hi, or_left_comm]

theorem append_left (h : Interleaves l m n) (k : List α) : Interleaves (k ++ l) m (k ++ n) := by
  induction k
  case nil => exact h
  case cons a _ hi => exact hi.left a

theorem append_right (h : Interleaves l m n) (k : List α) : Interleaves l (k ++ m) (k ++ n) := by
  induction k
  case nil => exact h
  case cons a _ hi => exact hi.right a

theorem flatMap (h : Interleaves l m n) (f : α → List β) :
    Interleaves (l.flatMap f) (m.flatMap f) (n.flatMap f) := by
  induction h
  case nil => exact .nil
  case left a _ hi => exact hi.append_left (f a)
  case right a _ hi => exact hi.append_right (f a)

end Interleaves

namespace Checks

variable {settings : Settings} {sources : Sources} {kept others states : List StateDefinition}
  {s : StateDefinition}

def brokenOn (settings : Settings) (states : List StateDefinition) (s : StateDefinition) :
    List Diagnostic :=
  (brokenOf settings states s).map fun e => brokenTransition s e.1 e.2

def unreachedOn (settings : Settings) (states : List StateDefinition) (s : StateDefinition) :
    List Diagnostic :=
  if Unreached settings states s then [unreachableState s] else []

theorem filter_battery_broken :
    (battery settings sources states).filter (·.code = "STATE002") =
      states.flatMap (brokenOn settings states) :=
  (filter_battery .brokenTransition).trans brokenTransitions_eq

theorem map_filter_unreached (settings : Settings) (all states : List StateDefinition) :
    (states.filter (Unreached settings all)).map unreachableState =
      states.flatMap (unreachedOn settings all) := by
  induction states
  case nil => rfl
  case cons s _ hi => by_cases hu : Unreached settings all s <;> simp [unreachedOn, hu, hi]

theorem filter_battery_unreached :
    (battery settings sources states).filter (·.code = "STATE003") =
      states.flatMap (unreachedOn settings states) :=
  (filter_battery .unreachableState).trans
    (unreachableStates_eq.trans (map_filter_unreached settings states states))

section

variable (h : Interleaves kept others states)
include h

theorem declared_iff {id : UInt32} :
    Declared states id ↔ Declared kept id ∨ Declared others id := by
  simp only [Declared, h.mem_iff, or_and_right, exists_or]

theorem targeted_iff {id : UInt32} :
    Targeted states id ↔ Targeted kept id ∨ Targeted others id := by
  simp only [Targeted, h.mem_iff, or_and_right, exists_or]

theorem brokenOf_sublist (s : StateDefinition) :
    (brokenOf settings states s).Sublist (brokenOf settings kept s) := by
  refine List.monotone_filter_right _ fun e he => ?_
  simp only [mem_declaredIds, decide_eq_true_eq, not_or, declared_iff h] at he ⊢
  exact ⟨he.left.left, he.right⟩

theorem Unreached.of_interleaves (hu : Unreached settings states s) :
    Unreached settings kept s := by
  rw [unreached_iff, targeted_iff h, not_or] at hu
  exact unreached_iff.mpr ⟨hu.left, hu.right.left⟩

-- Where no transition leads to the states that are taken away, none of them was declared for a
-- transition that stays.
theorem brokenOf_eq (hu : ∀ o ∈ others, Unreached settings states o) (hs : s ∈ kept) :
    brokenOf settings kept s = brokenOf settings states s := by
  refine List.filter_congr fun ⟨label, target⟩ he => ?_
  have reached : Targeted states target :=
    ⟨s, h.mem_iff.mpr (.inl hs), label, Transitions.mem_toList.mp he⟩
  have missed : ¬Declared others target := by
    rintro ⟨o, ho, rfl⟩
    exact (unreached_iff.mp (hu o ho)).right reached
  rw [decide_eq_decide, mem_declaredIds, mem_declaredIds, declared_iff h, or_iff_left missed]

theorem brokenOn_sublist (s : StateDefinition) :
    (brokenOn settings states s).Sublist (brokenOn settings kept s) :=
  (brokenOf_sublist h s).map _

theorem unreachedOn_sublist (s : StateDefinition) :
    (unreachedOn settings states s).Sublist (unreachedOn settings kept s) := by
  unfold unreachedOn
  split
  case isTrue hu => rw [if_pos (hu.of_interleaves h)]
  case isFalse => exact List.nil_sublist _

theorem flatMap_brokenOn_eq (hu : ∀ o ∈ others, Unreached settings states o) :
    kept.flatMap (brokenOn settings kept) = kept.flatMap (brokenOn settings states) :=
  List.flatMap_congr fun s hs => by rw [brokenOn, brokenOf_eq h hu hs, brokenOn]

theorem not_unreached_of_targeted (hs : Targeted kept s.id) :
    ¬Unreached settings kept s ∧ ¬Unreached settings states s := by
  have hk : ¬Unreached settings kept s := fun hu => (unreached_iff.mp hu).right hs
  exact ⟨hk, fun hu => hk (hu.of_interleaves h)⟩

end

-- What the checks find on the graph when states are taken away, or added anywhere. The findings are
-- told state by state. On a state that was there before, added ones bring no further finding, on
-- its transitions or on how it is reached. If all states that are taken away are found to be
-- unreachable, the findings on the transitions of those that stay are what they were, and so is
-- what is found on how a state is reached to which a state leads that stays.
theorem graphFindings_interleaves (settings : Settings) (sources sources' : Sources)
    {kept others states : List StateDefinition} (h : Interleaves kept others states) :
    (∀ sources model,
      (battery settings sources model).filter (·.code = "STATE002") =
        model.flatMap (brokenOn settings model) ∧
      (battery settings sources model).filter (·.code = "STATE003") =
        model.flatMap (unreachedOn settings model)) ∧
    ((∀ o ∈ others, unreachableState o ∈ battery settings sources states) →
      (battery settings sources' kept).filter (·.code = "STATE002") =
        kept.flatMap (brokenOn settings states) ∧
      Interleaves ((battery settings sources' kept).filter (·.code = "STATE002"))
        (others.flatMap (brokenOn settings states))
          ((battery settings sources states).filter (·.code = "STATE002")) ∧
      ∀ s ∈ kept, Targeted kept s.id →
        unreachedOn settings kept s = unreachedOn settings states s ∧
        (unreachableState s ∈ battery settings sources' kept ↔
          unreachableState s ∈ battery settings sources states)) ∧
    ∀ s ∈ kept, (brokenOn settings states s).Sublist (brokenOn settings kept s) ∧
      (unreachedOn settings states s).Sublist (unreachedOn settings kept s) := by
  refine ⟨fun _ _ => ⟨filter_battery_broken, filter_battery_unreached⟩, fun ho => ?_, fun s _ =>
    ⟨brokenOn_sublist h s, unreachedOn_sublist h s⟩⟩
  have hu : ∀ o ∈ others, Unreached settings states o :=
    fun o hm => (unreachableState_mem_iff (h.mem_iff.mpr (.inr hm))).mp (ho o hm)
  have stay : (battery settings sources' kept).filter (·.code = "STATE002") =
      kept.flatMap (brokenOn settings states) :=
    filter_battery_broken.trans (flatMap_brokenOn_eq h hu)
  refine ⟨stay, ?_, fun s hs ht => ?_⟩
  · rw [stay, filter_battery_broken]
    exact h.flatMap _
  · have ⟨hk, hn⟩ : ¬Unreached settings kept s ∧ ¬Unreached settings states s :=
      not_unreached_of_targeted h ht
    rw [unreachableState_mem_iff hs, unreachableState_mem_iff (h.mem_iff.mpr (.inl hs))]
    exact ⟨by rw [unreachedOn, if_neg hk, unreachedOn, if_neg hn], iff_of_false hk hn⟩

def pairedStates : List StateDefinition :=
  [(pairedState "Ping" "next" 5).withTransition "lost" 8, pairedState "Pong" "next" 5]

theorem pairedStates_unchanged :
    Interleaves pairedStates [strandedState] strandedStates ∧
      unreachableState strandedState ∈ battery .default Sources.empty strandedStates ∧
      (battery .default Sources.empty pairedStates).filter (·.code = "STATE002") =
        pairedStates.flatMap (brokenOn .default strandedStates) ∧
      ∃ s ∈ pairedStates, Targeted pairedStates s.id ∧
        unreachedOn .default pairedStates s = unreachedOn .default strandedStates s ∧
        (brokenOn .default strandedStates s).Sublist (brokenOn .default pairedStates s) := by
  have parts : Interleaves pairedStates [strandedState] strandedStates :=
    .left _ (.right _ (.left _ .nil))
  have found : unreachableState strandedState ∈ battery .default Sources.empty strandedStates := by
    decide +kernel
  have found :
      ∀ o ∈ [strandedState],
      unreachableState o ∈ battery .default Sources.empty strandedStates := by
    simpa using found
  have listed : pairedState "Pong" "next" 5 ∈ pairedStates := by decide
  have reached : Targeted pairedStates (pairedState "Pong" "next" 5).id := by decide
  have ⟨_, taken, added⟩ := graphFindings_interleaves .default Sources.empty Sources.empty parts
  have ⟨transitions, _, unreached⟩ := taken found
  exact ⟨parts, found _ (List.mem_singleton_self _), transitions, _, listed, reached,
    (unreached _ listed reached).left, (added _ listed).left⟩

end Checks
end StateLint
