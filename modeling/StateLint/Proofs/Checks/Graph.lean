import Mathlib.Data.List.Perm.Basic
import StateLint.Proofs.Checks.Membership

namespace StateLint.Checks

variable {settings : Settings} {s t : StateDefinition}
  {states states' others : List StateDefinition}

def brokenOf (settings : Settings) (states : List StateDefinition) (s : StateDefinition) :
    List (String × UInt32) :=
  s.transitions.toList.filter fun e => e.2 ∉ declaredIds settings states

def Unreached (settings : Settings) (states : List StateDefinition) (s : StateDefinition) : Prop :=
  s.id ∉ targetIds states ∧ ¬settings.isReserved s.id

instance : Decidable (Unreached settings states s) :=
  inferInstanceAs (Decidable (_ ∧ _))

theorem brokenTransitions_eq :
    brokenTransitions settings states =
      states.flatMap fun s => (brokenOf settings states s).map fun e =>
        brokenTransition s e.1 e.2 :=
  rfl

theorem unreachableStates_eq :
    unreachableStates settings states =
      (states.filter (Unreached settings states)).map unreachableState := by
  simp [unreachableStates, Unreached]

-- One state of a game is declared anew, with the same id and the same transitions. The order of the
-- states may change.
structure Moved (s t : StateDefinition) (states states' : List StateDefinition) : Prop where
  id          : s.id = t.id
  transitions : s.transitions = t.transitions
  others      : ∃ others, states.Perm (s :: others) ∧ states'.Perm (t :: others)

namespace Moved

variable (h : Moved s t states states')
include h

theorem mem_declaredIds {id : UInt32} :
    id ∈ declaredIds settings states ↔ id ∈ declaredIds settings states' := by
  have ⟨others, hs, ht⟩ := h.others
  have he : (s :: others).map (·.id) = (t :: others).map (·.id) := by simp [h.id]
  have hm : id ∈ states.map (·.id) ↔ id ∈ states'.map (·.id) := by
    rw [(hs.map _).mem_iff, he, (ht.map _).mem_iff]
  simp only [declaredIds, List.mem_append, hm]

theorem mem_targetIds {id : UInt32} : id ∈ targetIds states ↔ id ∈ targetIds states' := by
  have ⟨others, hs, ht⟩ := h.others
  have he : targetIds (s :: others) = targetIds (t :: others) := by simp [targetIds, h.transitions]
  have hs : (targetIds states).Perm (targetIds (s :: others)) := hs.flatMap_right _
  have ht : (targetIds states').Perm (targetIds (t :: others)) := ht.flatMap_right _
  rw [hs.mem_iff, he, ht.mem_iff]

theorem brokenOf_eq : brokenOf settings states s = brokenOf settings states' t := by
  simp only [brokenOf, h.transitions, h.mem_declaredIds]

theorem unreached_iff : Unreached settings states s ↔ Unreached settings states' t := by
  simp only [Unreached, h.id, h.mem_targetIds]

end Moved
end StateLint.Checks
