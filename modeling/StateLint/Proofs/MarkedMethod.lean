import StateLint.Checks.Declaration
import StateLint.Proofs.Text.Pattern

namespace StateLint.StateClass

open Text Reader Checks

theorem functionNamed_nil (name : String) : functionNamed name [] = none := by
  rw [functionNamed, bind_eq, literal_nil (by simp)]
  rfl

theorem hasFunction_of_suffix {text name : String} {s x} (hs : s <:+ text.toList)
    (h : functionNamed name s = some x) :
    hasFunction text name := by
  have hn : s ≠ [] := by
    rintro rfl
    rw [functionNamed_nil] at h
    contradiction
  exact Pattern.occursIn_anywhere hs hn (Option.isSome_iff_exists.mpr ⟨x, h⟩)

-- Where the head of an action's method is read, a function of that method's name is read a little
-- further on.
theorem actionMethod_eq_some {s n t : List Char} (h : actionMethod s = some (n, t)) :
    (n ≠ [] ∧ ∀ c ∈ n, isWord c) ∧
      ∃ u, u <:+ s ∧ functionNamed (.ofList ('a' :: 'c' :: 't' :: n)) u = some ((), t) := by
  have ⟨_, s₁, h₁, h⟩ := bind_eq_some.mp h
  have ⟨_, s₂, h₂, h⟩ := bind_eq_some.mp h
  have ⟨_, s₃, h₃, h⟩ := bind_eq_some.mp h
  have ⟨_, s₄, h₄, h⟩ := bind_eq_some.mp h
  have ⟨_, s₅, h₅, h⟩ := bind_eq_some.mp h
  have ⟨_, s₆, h₆, h⟩ := bind_eq_some.mp h
  have ⟨m, s₇, h₇, h⟩ := bind_eq_some.mp h
  have ⟨_, s₈, h₈, h⟩ := bind_eq_some.mp h
  have ⟨_, s₉, h₉, h⟩ := bind_eq_some.mp h
  have ⟨hm, ht⟩ := pure_eq_some.mp h
  subst hm ht
  have ⟨hn, hs, hw⟩ := name_eq_some h₇
  refine ⟨⟨hn, hw⟩, s₃, ?_, ?_⟩
  · exact (blanks1_leavesEnd h₃).trans ((literal_leavesEnd _ h₂).trans (blanks_leavesEnd h₁))
  · have ha : literal (.ofList ('a' :: 'c' :: 't' :: m)) s₅ = some ((), s₇) := by
      rw [literal_eq_some, literal_eq_some.mp h₆, hs]
      simp
    exact bind_eq_some.mpr ⟨_, _, h₄, bind_eq_some.mpr ⟨_, _, h₅, bind_eq_some.mpr ⟨_, _, ha,
      bind_eq_some.mpr ⟨_, _, h₈, h₉⟩⟩⟩⟩

theorem markedMethod_eq_some {s n t : List Char} (h : markedMethod s = some (n, t)) :
    ∃ u, u <:+ s ∧ actionMethod u = some (n, t) := by
  have ⟨_, s₁, h₁, h⟩ := bind_eq_some.mp h
  have ⟨_, s₂, h₂, h⟩ := bind_eq_some.mp h
  have hs := (blanks_leavesEnd h₂).trans (literal_leavesEnd _ h₁)
  rw [orElse_eq] at h
  cases Option.or_eq_some_iff.mp h
  case inl h =>
    have ⟨_, s₃, h₃, h⟩ := bind_eq_some.mp h
    have ⟨u, hu, hr⟩ := skipFarthest_eq_some h
    exact ⟨u, hu.trans ((literal_leavesEnd _ h₃).trans hs), hr⟩
  case inr h => exact ⟨s₂, hs, h.right⟩

variable {text : String} {n : List Char}

theorem exists_actionMethod (h : n ∈ markedMethod.anywhere.findAll text.toList) :
    ∃ u t, u <:+ text.toList ∧ actionMethod u = some (n, t) := by
  have ⟨_, s, t, hs, h⟩ := Pattern.mem_findAll h
  have ⟨u, hu, h⟩ := markedMethod_eq_some h
  exact ⟨u, t, hu.trans hs, h⟩

theorem markedMethod_name (h : n ∈ markedMethod.anywhere.findAll text.toList) :
    n ≠ [] ∧ ∀ c ∈ n, isWord c := by
  have ⟨_, _, _, h⟩ := exists_actionMethod h
  exact (actionMethod_eq_some h).left

theorem hasFunction_of_marked (h : n ∈ markedMethod.anywhere.findAll text.toList) :
    hasFunction text (.ofList ('a' :: 'c' :: 't' :: n)) := by
  have ⟨_, _, hs, h⟩ := exists_actionMethod h
  have ⟨_, _, hu, hf⟩ := actionMethod_eq_some h
  exact hasFunction_of_suffix (hu.trans hs) hf

theorem mem_actions (h : n ∈ markedMethod.anywhere.findAll text.toList) :
    .ofList (lowerFirst n) ∈ actions text.toList := by
  rw [actions, List.mem_eraseDups]
  exact List.mem_map_of_mem h

end StateLint.StateClass
