import StateLint.Proofs.Text.Reader
import StateLint.Text.Pattern

namespace StateLint.Text

variable {α : Type}

theorem Reader.skipFarthest_eq_some {r : Reader α} {n s x} (h : skipFarthest r n s = some x) :
    ∃ t, t <:+ s ∧ r t = some x := by
  induction n generalizing s
  case zero => exact ⟨s, List.suffix_refl s, h⟩
  case succ n hi =>
    cases s
    case nil => exact ⟨[], List.suffix_refl [], h⟩
    case cons c cs =>
      cases Option.or_eq_some_iff.mp h
      case inl h =>
        have ⟨t, ht, hr⟩ := hi h
        exact ⟨t, ht.trans (List.suffix_cons c cs), hr⟩
      case inr h => exact ⟨c :: cs, List.suffix_refl _, h.right⟩

namespace Pattern

theorem find?_go_eq_some {p : Pattern α} {b s x} (h : find?.go p b s = some x) :
    ∃ b' t, t <:+ s ∧ p b' t = some x := by
  induction s generalizing b
  case nil => simp [find?.go] at h
  case cons c cs hi =>
    cases Option.or_eq_some_iff.mp h
    case inl h => exact ⟨b, c :: cs, List.suffix_refl _, h⟩
    case inr h =>
      obtain ⟨b', t, ht, hp⟩ := hi h.right
      exact ⟨b', t, ht.trans (List.suffix_cons c cs), hp⟩

theorem find?_go_isSome {r : Reader α} {b s t} (hs : t <:+ s) (hn : t ≠ []) (h : (r t).isSome) :
    (find?.go r.anywhere b s).isSome := by
  induction s generalizing b
  case nil => exact absurd (List.suffix_nil.mp hs) hn
  case cons c cs hi =>
    simp only [find?.go, Option.isSome_or, Bool.or_eq_true]
    cases List.suffix_cons_iff.mp hs
    case inl hs => exact .inl (hs ▸ h)
    case inr hs => exact .inr (hi hs)

theorem occursIn_anywhere {r : Reader α} {s t} (hs : t <:+ s) (hn : t ≠ []) (h : (r t).isSome) :
    r.anywhere.occursIn s :=
  find?_go_isSome hs hn h

theorem cut_go_mem {p : Pattern α} {n b s x} (h : x ∈ (cut.go p n b s).2) :
    ∃ b' t u, t <:+ s ∧ p b' t = some (x.1, u) := by
  induction s generalizing n b
  case nil => simp [cut.go] at h
  case cons c cs hi =>
    have lift {n b} (h : x ∈ (cut.go p n b cs).2) : ∃ b' t u, t <:+ c :: cs ∧
        p b' t = some (x.1, u) :=
      have ⟨b', t, u, ht, hp⟩ := hi h
      ⟨b', t, u, ht.trans (List.suffix_cons c cs), hp⟩
    cases n
    case succ n => exact lift h
    case zero =>
      simp only [cut.go] at h
      split at h
      case h_1 a u hp =>
        cases List.mem_cons.mp h
        case inl h => exact ⟨b, c :: cs, u, List.suffix_refl _, h ▸ hp⟩
        case inr h => exact lift h
      case h_2 => exact lift h

theorem mem_findAll {p : Pattern α} {a s} (h : a ∈ p.findAll s) :
    ∃ b t u, t <:+ s ∧ p b t = some (a, u) := by
  have ⟨x, hx, ha⟩ := List.mem_map.mp h
  exact ha ▸ cut_go_mem hx

theorem places_go_mem {p : Pattern α} {b s a} (h : a ∈ places.go p b s) :
    ∃ b' t u, t <:+ s ∧ p b' t = some (a, u) := by
  induction s generalizing b
  case nil => simp [places.go] at h
  case cons c cs hi =>
    simp only [places.go, List.mem_append, Option.mem_toList, Option.map_eq_some_iff] at h
    cases h
    case inl h =>
      have ⟨x, hx, ha⟩ := h
      exact ⟨b, c :: cs, x.2, List.suffix_refl _, ha ▸ hx⟩
    case inr h =>
      have ⟨b', t, u, ht, hp⟩ := hi h
      exact ⟨b', t, u, ht.trans (List.suffix_cons c cs), hp⟩

theorem mem_places {p : Pattern α} {a s} (h : a ∈ p.places s) :
    ∃ b t u, t <:+ s ∧ p b t = some (a, u) :=
  places_go_mem h

theorem places_go_eq_nil {p : Pattern α} {b s} : places.go p b s = [] ↔ find?.go p b s = none := by
  induction s generalizing b
  case nil => simp [places.go, find?.go]
  case cons c cs hi => simp [places.go, find?.go, hi]

theorem places_eq_nil {p : Pattern α} {s} : p.places s = [] ↔ ¬p.occursIn s := by
  simp [occursIn, places, find?, places_go_eq_nil]

theorem find?_go_anywhere (r : Reader α) (b : Option Char) (s : List Char) :
    find?.go r.anywhere b s = r.anywhere.find? s := by
  cases s <;> rfl

theorem split_go_of_none {r : Reader α} {b s} (h : ∀ t, t <:+ s → r t = none) :
    split.go r.anywhere b s = (s, []) := by
  induction s generalizing b
  case nil => rfl
  case cons c cs hi =>
    have hr : r (c :: cs) = none := h _ (List.suffix_refl _)
    have := hi (b := some c) fun t ht => h t (ht.trans (List.suffix_cons c cs))
    simp [split.go, Reader.anywhere, hr] at this ⊢
    simp [this]

theorem find?_go_of_none {r : Reader α} {b s} (h : ∀ t, t <:+ s → r t = none) :
    find?.go r.anywhere b s = none := by
  cases hf : find?.go r.anywhere b s
  case none => rfl
  case some =>
    have ⟨_, t, ht, hr⟩ := find?_go_eq_some hf
    exact absurd (h t ht) (by simp [show r t = _ from hr])

theorem find?_anywhere_cons (r : Reader α) (c : Char) (cs : List Char) :
    r.anywhere.find? (c :: cs) = (r (c :: cs)).or (r.anywhere.find? cs) := by
  rw [← find?_go_anywhere r (some c) cs]
  rfl

theorem split_anywhere_cons (r : Reader α) (c : Char) (cs : List Char) :
    r.anywhere.split (c :: cs) =
      if (r (c :: cs)).isSome then ([], c :: cs)
        else (c :: (r.anywhere.split cs).1, (r.anywhere.split cs).2) := by
  have h (b) : split.go r.anywhere b cs = r.anywhere.split cs := by cases cs <;> rfl
  simp only [split, split.go] at h ⊢
  simp [h, Reader.anywhere]

-- What is ignored at the end of a text cannot be reached from within it.
theorem find?_append {r : Reader α} {w : List Char} (hr : r.Ignores w) (s : List Char) :
    r.anywhere.find? (s ++ w) =
      ((r.anywhere.find? s).map fun x => (x.1, x.2 ++ w)).or (r.anywhere.find? w) := by
  induction s
  case nil => rfl
  case cons c cs hi =>
    rw [List.cons_append, find?_anywhere_cons, find?_anywhere_cons, hi, ← List.cons_append,
      hr (c :: cs)]
    cases r (c :: cs) <;> simp

end Pattern
end StateLint.Text
