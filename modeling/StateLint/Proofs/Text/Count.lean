import Mathlib.Algebra.GroupWithZero.Nat
import StateLint.Proofs.Text.Places

namespace StateLint.Text

variable {α β : Type} {r : Reader α} {q : Reader β} {s : List Char}

def Reader.Extends (r : Reader α) : Prop :=
  ∀ ⦃s⦄ t, (r s).isSome → (r (s ++ t)).isSome

namespace Pattern

def countPlaces (r : Reader α) (text : List Char) : Nat :=
  (r.anywhere.places text).length

@[simp]
theorem countPlaces_nil : countPlaces r [] = 0 :=
  rfl

theorem countPlaces_cons (r : Reader α) (c : Char) (s : List Char) :
    countPlaces r (c :: s) = (if (r (c :: s)).isSome then 1 else 0) + countPlaces r s := by
  rw [countPlaces, places_anywhere_cons, List.length_append, countPlaces]
  cases r (c :: s) <;> rfl

theorem countPlaces_pos : 0 < countPlaces r s ↔ r.anywhere.occursIn s := by
  rw [countPlaces, Nat.pos_iff_ne_zero, Ne, List.length_eq_zero_iff, places_eq_nil, not_not]

theorem countPlaces_le (h : ∀ s, (r s).isSome → (q s).isSome) (s : List Char) :
    countPlaces r s ≤ countPlaces q s := by
  induction s
  case nil => exact Nat.le_refl 0
  case cons c s hi =>
    rw [countPlaces_cons, countPlaces_cons]
    apply Nat.add_le_add _ hi
    by_cases hr : (r (c :: s)).isSome
    case pos => simp [hr, h _ hr]
    case neg => simp [hr]

-- A cut gives a text in front of the first place, which is a start of what is cut unless a place
-- reaches into it, and the bodies behind the places. The induction is on the text, with the
-- characters counted that are still to be skipped.
theorem countPlaces_cut_go (hr : r.Extends) (p : Pattern β) (skip : Nat) (b : Option Char)
    (s : List Char) :
    (skip = 0 → (cut.go p skip b s).1 <+: s) ∧
      countPlaces r (cut.go p skip b s).1 +
        ((cut.go p skip b s).2.map fun x => countPlaces r x.2).sum ≤
        countPlaces r s := by
  induction s generalizing skip b
  case nil => simp [cut.go]
  case cons c s hi =>
    have here := countPlaces_cons r c s
    cases skip
    case succ n =>
      have rest := (hi n (some c)).right
      simp only [cut.go]
      exact ⟨fun h => absurd h (Nat.succ_ne_zero n), by omega⟩
    case zero =>
      simp only [cut.go]
      cases hp : p b (c :: s)
      case some x =>
        have rest := (hi (s.length - x.2.length) (some c)).right
        simp only [List.map_cons, List.sum_cons, countPlaces_nil]
        exact ⟨fun _ => List.nil_prefix, by omega⟩
      case none =>
        have rest := (hi 0 (some c)).right
        have front := (hi 0 (some c)).left rfl
        simp only
        refine ⟨fun _ => (List.prefix_cons_inj c).mpr front, ?_⟩
        -- What is read at the start of a shorter text is read at the start of the whole.
        have grow : (r (c :: (cut.go p 0 (some c) s).1)).isSome → (r (c :: s)).isSome := by
          obtain ⟨t, ht⟩ := front
          intro h
          have := hr t h
          rwa [List.cons_append, ht] at this
        rw [countPlaces_cons]
        split
        case isTrue h =>
          rw [if_pos (grow h)] at here
          omega
        case isFalse => omega

theorem sum_countPlaces_cut_le (hr : r.Extends) (p : Pattern β) (s : List Char) :
    ((p.cut s).map fun x => countPlaces r x.2).sum ≤ countPlaces r s :=
  Nat.le_trans (Nat.le_add_left ..) (countPlaces_cut_go hr p 0 none s).right

theorem length_filter_le_sum {f : β → Nat} {p : β → Bool} (h : ∀ x, p x → 0 < f x) (l : List β) :
    (l.filter p).length ≤ (l.map f).sum := by
  induction l
  case nil => exact Nat.le_refl 0
  case cons x xs hi =>
    simp only [List.filter_cons, List.map_cons, List.sum_cons]
    split
    case isTrue hx =>
      have := h x hx
      rw [List.length_cons]
      omega
    case isFalse => omega

theorem length_filter_cut_le (hr : r.Extends) (p : Pattern β) (s : List Char) :
    ((p.cut s).filter fun x => r.anywhere.occursIn x.2).length ≤ countPlaces r s :=
  Nat.le_trans (length_filter_le_sum (fun _ => countPlaces_pos.mpr) _)
    (sum_countPlaces_cut_le hr p s)

end Pattern
end StateLint.Text
