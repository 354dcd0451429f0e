import StateLint.Proofs.Text.Search

namespace StateLint.Text

variable {α β : Type} {r q : Reader α} {s t : List Char} {a : α}

-- Nothing is read within what has been read.
def Reader.Separate (r : Reader α) : Prop :=
  ∀ ⦃c s a t⦄, r (c :: s) = some (a, t) → ∃ u, s = u ++ t ∧ r.Misses u t

namespace Pattern

open Reader

@[simp]
theorem places_nil (p : Pattern α) : p.places [] = [] :=
  rfl

theorem places_anywhere_cons (r : Reader α) (c : Char) (s : List Char) :
    r.anywhere.places (c :: s) = ((r (c :: s)).map (·.1)).toList ++ r.anywhere.places s := by
  have go : places.go r.anywhere (some c) s = r.anywhere.places s := by cases s <;> rfl
  rw [places, places.go, go]
  rfl

theorem places_of_misses (h : r.Misses s t) : r.anywhere.places (s ++ t) = r.anywhere.places t := by
  induction s
  case nil => rfl
  case cons c cs hi =>
    rw [List.cons_append, places_anywhere_cons, h.left, hi h.right]
    rfl

theorem mem_places_append (h : a ∈ r.anywhere.places (s ++ t)) :
    (∃ u v, u <:+ s ∧ r (u ++ t) = some (a, v)) ∨ a ∈ r.anywhere.places t := by
  induction s
  case nil => exact .inr h
  case cons c cs hi =>
    rw [List.cons_append, places_anywhere_cons, List.mem_append, Option.mem_toList,
      Option.map_eq_some_iff] at h
    cases h
    case inl h =>
      obtain ⟨x, hx, rfl⟩ := h
      exact .inl ⟨c :: cs, x.2, List.suffix_rfl, hx⟩
    case inr h =>
      refine (hi h).imp_left fun ⟨u, v, hu, hr⟩ => ?_
      exact ⟨u, v, hu.trans (List.suffix_cons c cs), hr⟩

theorem places_map {q : Reader β} {f : α → β}
    (h : ∀ s, (q s).map (·.1) = (r s).map fun x => f x.1) (s : List Char) :
    q.anywhere.places s = (r.anywhere.places s).map f := by
  induction s
  case nil => rfl
  case cons c cs hi =>
    rw [places_anywhere_cons, places_anywhere_cons, h, hi, List.map_append]
    cases r (c :: cs) <;> rfl

theorem places_orElse_perm (h : ∀ s, r s = none ∨ q s = none) (s : List Char) :
    ((r <|> q).anywhere.places s).Perm (r.anywhere.places s ++ q.anywhere.places s) := by
  induction s
  case nil => exact .nil
  case cons c cs hi =>
    simp only [places_anywhere_cons, orElse_eq]
    cases h (c :: cs)
    case inl h =>
      rw [h, Option.none_or]
      exact (hi.append_left _).trans (List.perm_append_comm_assoc ..)
    case inr h =>
      rw [h, Option.or_none, List.append_assoc]
      exact hi.append_left _

theorem findAll_eq_places (h : r.Separate) (s : List Char) :
    r.anywhere.findAll s = r.anywhere.places s := by
  match s with
  | [] => rfl
  | c :: s =>
    rw [places_anywhere_cons]
    cases hr : r (c :: s)
    case none =>
      have hm : r.Misses [c] s := ⟨hr, trivial⟩
      exact (findAll_of_misses hm).trans (findAll_eq_places h s)
    case some x =>
      obtain ⟨u, rfl, hm⟩ := h hr
      have hn : c :: u ≠ [] := List.cons_ne_nil c u
      have shorter : x.2.length < (c :: (u ++ x.2)).length := by
        rw [List.length_cons, List.length_append]
        omega
      rw [← List.cons_append, findAll_of_reads hn hr, places_of_misses hm, findAll_eq_places h x.2]
      rfl
termination_by s.length

end Pattern
end StateLint.Text
