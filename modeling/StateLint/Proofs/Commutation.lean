import Mathlib.Data.List.Basic

namespace StateLint

variable {σ τ κ : Type} {apply : σ → τ → σ} {kind : τ → κ}

def KindsCommute (apply : σ → τ → σ) (kind : τ → κ) : Prop :=
  ∀ s a b, kind a ≠ kind b → apply (apply s a) b = apply (apply s b) a

theorem KindsCommute.foldl_apply (hc : KindsCommute apply kind) {steps : List τ} {a : τ}
    (h : ∀ b ∈ steps, kind b ≠ kind a) (s : σ) :
    steps.foldl apply (apply s a) = apply (steps.foldl apply s) a := by
  induction steps generalizing s
  case nil => rfl
  case cons b bs hi =>
    have ⟨hb, hs⟩ := List.forall_mem_cons.mp h
    rw [List.foldl_cons, List.foldl_cons, ← hc s b a hb, hi hs]

variable [DecidableEq κ]

theorem eq_nil_of_filter_kind {steps : List τ} (h : ∀ k, [] = steps.filter (kind · = k)) :
    steps = [] := by
  cases steps
  case nil => rfl
  case cons a as => simpa using h (kind a)

-- Two runs with the same steps of each kind, in the same order, end alike.
theorem KindsCommute.foldl_eq (hc : KindsCommute apply kind) {steps others : List τ}
    (h : ∀ k, steps.filter (kind · = k) = others.filter (kind · = k)) (s : σ) :
    steps.foldl apply s = others.foldl apply s := by
  induction steps generalizing others s
  case nil => rw [eq_nil_of_filter_kind h]
  case cons a as hi =>
    -- The other run takes the first step as well, after steps of other kinds only.
    have ha : others.filter (kind · = kind a) = a :: as.filter (kind · = kind a) := by simp [← h]
    have ⟨before, after, ho, hb, hp, hf⟩ := List.filter_eq_cons_iff.mp ha
    have hb : ∀ b ∈ before, kind b ≠ kind a := fun b hm => by simpa using hb b hm
    have rest (k) : as.filter (kind · = k) = (before ++ after).filter (kind · = k) := by
      have hk := h k
      rw [ho] at hk
      by_cases he : kind a = k
      case neg => simpa [he] using hk
      case pos =>
        have hn : before.filter (kind · = k) = [] :=
          List.filter_eq_nil_iff.mpr fun b hm => by simpa [← he] using hb b hm
        simpa [he, hn] using hk
    rw [List.foldl_cons, hi rest, ho, List.foldl_append, hc.foldl_apply hb, List.foldl_append,
      List.foldl_cons]

end StateLint
