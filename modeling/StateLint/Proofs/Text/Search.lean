import StateLint.Proofs.Text.Pattern

namespace StateLint.Text

variable {α : Type} {r : Reader α} {s t u : List Char}

namespace Reader

-- At no place of a stretch something is read, given the text that follows the stretch.
def Misses (r : Reader α) : List Char → List Char → Prop
  | [], _ => True
  | c :: s, t => r (c :: (s ++ t)) = none ∧ r.Misses s t

@[simp]
theorem misses_nil : r.Misses [] t :=
  trivial

@[simp]
theorem misses_cons {c : Char} : r.Misses (c :: s) t ↔ r (c :: (s ++ t)) = none ∧ r.Misses s t :=
  .rfl

@[simp]
theorem misses_append : r.Misses (s ++ u) t ↔ r.Misses s (u ++ t) ∧ r.Misses u t := by
  induction s
  case nil => simp
  case cons c cs hi => simp [hi, and_assoc]

theorem Misses.append (hs : r.Misses s (u ++ t)) (hu : r.Misses u t) : r.Misses (s ++ u) t :=
  misses_append.mpr ⟨hs, hu⟩

theorem Misses.suffix (h : r.Misses s t) (hu : u <:+ s) : r.Misses u t := by
  obtain ⟨v, rfl⟩ := hu
  exact (misses_append.mp h).right

theorem Misses.eq_none (h : r.Misses s t) (hu : u <:+ s) (hn : u ≠ []) : r (u ++ t) = none := by
  have hm := h.suffix hu
  cases u
  case nil => contradiction
  case cons => exact hm.left

-- Where the first place is at which something is read, is settled by the text.
theorem Misses.front_eq {front front' : List Char} (h : r.Misses front t)
    (h' : r.Misses front' u) (ht : (r t).isSome) (hu : (r u).isSome)
    (he : front ++ t = front' ++ u) : front = front' := by
  -- Of two different ones the shorter is missed by the search for the longer.
  have shorter {v w x : List Char} (hm : r.Misses (v ++ w) x) (hr : (r (w ++ x)).isSome) :
      w = [] := by
    by_contra hn
    simp [hm.eq_none (List.suffix_append v w) hn] at hr
  cases List.append_eq_append_iff.mp he
  case inl h₁ =>
    obtain ⟨w, rfl, rfl⟩ := h₁
    rw [shorter h' ht, List.append_nil]
  case inr h₁ =>
    obtain ⟨w, rfl, rfl⟩ := h₁
    rw [shorter h hu, List.append_nil]

theorem misses_of_heads (h : ∀ c ∈ s, ∀ cs, r (c :: cs) = none) : r.Misses s t := by
  induction s
  case nil => trivial
  case cons c cs hi =>
    exact ⟨h c List.mem_cons_self _, hi fun d hd => h d (List.mem_cons_of_mem _ hd)⟩

theorem misses_of_ignores (hr : r.Ignores t) (h : ∀ u, u <:+ s → u ≠ [] → r u = none) :
    r.Misses s t := by
  induction s
  case nil => trivial
  case cons c cs hi =>
    refine ⟨?_, hi fun u hu => h u (hu.trans (List.suffix_cons c cs))⟩
    rw [← List.cons_append, hr, h _ List.suffix_rfl (List.cons_ne_nil c cs)]
    rfl

end Reader

namespace Pattern

open Reader

theorem find?_of_reads {x : α × List Char} (hs : s ≠ []) (h : r s = some x) :
    r.anywhere.find? s = some x := by
  cases s
  case nil => contradiction
  case cons c cs => simp [find?_anywhere_cons, h]

theorem find?_of_misses (h : r.Misses s t) : r.anywhere.find? (s ++ t) = r.anywhere.find? t := by
  induction s
  case nil => rfl
  case cons c cs hi =>
    rw [List.cons_append, find?_anywhere_cons, h.left, Option.none_or, hi h.right]

theorem find?_eq_none_of_misses (h : r.Misses s []) : r.anywhere.find? s = none := by
  have := find?_of_misses h
  rwa [List.append_nil] at this

theorem misses_of_find?_eq_none (h : r.anywhere.find? s = none) : r.Misses s [] := by
  induction s
  case nil => trivial
  case cons c cs hi =>
    rw [find?_anywhere_cons, Option.or_eq_none_iff] at h
    exact ⟨by simpa using h.left, hi h.right⟩

theorem exists_misses_of_find? {x : α × List Char} (h : r.anywhere.find? s = some x) :
    ∃ front t, s = front ++ t ∧ r.Misses front t ∧ r t = some x := by
  induction s
  case nil => contradiction
  case cons c cs hi =>
    rw [find?_anywhere_cons] at h
    cases hr : r (c :: cs)
    case some =>
      rw [hr, Option.some_or] at h
      exact ⟨[], c :: cs, rfl, trivial, hr.trans h⟩
    case none =>
      rw [hr, Option.none_or] at h
      obtain ⟨front, t, rfl, hm, ht⟩ := hi h
      exact ⟨c :: front, t, rfl, ⟨hr, hm⟩, ht⟩

def Avoids (p : Pattern α) (t : List Char) : Option Char → List Char → Prop
  | _, [] => True
  | b, c :: s => p b (c :: (s ++ t)) = none ∧ p.Avoids t (some c) s

instance decidableAvoids (p : Pattern α) (t : List Char) : ∀ b s, Decidable (p.Avoids t b s)
  | _, [] => isTrue trivial
  | _, c :: s =>
    have := decidableAvoids p t (some c) s
    inferInstanceAs (Decidable (_ ∧ _))

theorem find?_go_of_avoids {p : Pattern α} {b : Option Char} (h : p.Avoids t b s) :
    find?.go p b (s ++ t) = find?.go p (s.getLast?.or b) t := by
  induction s generalizing b
  case nil => rfl
  case cons c cs hi =>
    have hl : (c :: cs).getLast?.or b = cs.getLast?.or (some c) := by
      rw [List.getLast?_cons]
      cases cs.getLast? <;> rfl
    rw [List.cons_append, find?.go, h.left, Option.none_or, hi h.right, hl]

-- The first place that fits is behind a stretch that is avoided.
theorem find?_of_avoids {p : Pattern α} {x : α × List Char} (h : p.Avoids t none s) (ht : t ≠ [])
    (hr : p s.getLast? t = some x) : p.find? (s ++ t) = some x := by
  rw [find?, find?_go_of_avoids h, Option.or_none]
  cases t
  case nil => contradiction
  case cons c cs => rw [find?.go, hr, Option.some_or]

theorem split_of_reads {x : α × List Char} (h : r s = some x) : r.anywhere.split s = ([], s) := by
  cases s
  case nil => rfl
  case cons c cs => simp [split_anywhere_cons, h]

theorem misses_split (r : Reader α) (s : List Char) :
    r.Misses (r.anywhere.split s).1 (r.anywhere.split s).2 := by
  induction s
  case nil => trivial
  case cons c cs hi =>
    rw [split_anywhere_cons]
    split
    case isTrue => trivial
    case isFalse h => exact ⟨by simpa [split_append] using h, hi⟩

theorem isSome_split (h : (r.anywhere.split s).2 ≠ []) : (r (r.anywhere.split s).2).isSome := by
  induction s
  case nil => contradiction
  case cons c cs hi =>
    rw [split_anywhere_cons] at h ⊢
    split
    case isTrue hr => exact hr
    case isFalse hr => exact hi (by simpa [hr] using h)

theorem split_of_misses (h : r.Misses s t) :
    r.anywhere.split (s ++ t) = (s ++ (r.anywhere.split t).1, (r.anywhere.split t).2) := by
  induction s
  case nil => rfl
  case cons c cs hi => simp [split_anywhere_cons, h.left, hi h.right]

theorem cut_go_anywhere (b : Option Char) :
    cut.go r.anywhere 0 b s = cut.go r.anywhere 0 none s := by
  cases s <;> rfl

theorem cut_go_skip (b : Option Char) :
    cut.go r.anywhere s.length b (s ++ t) = cut.go r.anywhere 0 none t := by
  induction s generalizing b
  case nil => exact cut_go_anywhere b
  case cons c cs hi => exact hi (some c)

theorem cut_go_of_reads {a : α} (hs : s ≠ []) (h : r (s ++ t) = some (a, t)) (b : Option Char) :
    cut.go r.anywhere 0 b (s ++ t) =
      ([], (a, (cut.go r.anywhere 0 none t).1) :: (cut.go r.anywhere 0 none t).2) := by
  cases s
  case nil => contradiction
  case cons c cs =>
    have hl : (cs ++ t).length - t.length = cs.length := by simp
    have hr : r.anywhere b (c :: (cs ++ t)) = some (a, t) := h
    simp only [List.cons_append, cut.go, hr, hl, cut_go_skip]

theorem cut_go_of_misses (h : r.Misses s t) (b : Option Char) :
    cut.go r.anywhere 0 b (s ++ t) =
      (s ++ (cut.go r.anywhere 0 none t).1, (cut.go r.anywhere 0 none t).2) := by
  induction s generalizing b
  case nil => exact cut_go_anywhere b
  case cons c cs hi =>
    have hr : r.anywhere b (c :: (cs ++ t)) = none := h.left
    simp only [List.cons_append, cut.go, hr, hi h.right]

theorem findAll_of_reads {a : α} (hs : s ≠ []) (h : r (s ++ t) = some (a, t)) :
    r.anywhere.findAll (s ++ t) = a :: r.anywhere.findAll t := by
  rw [findAll, cut, cut_go_of_reads hs h]
  rfl

theorem findAll_of_misses (h : r.Misses s t) :
    r.anywhere.findAll (s ++ t) = r.anywhere.findAll t := by
  rw [findAll, cut, cut_go_of_misses h]
  rfl

theorem findAll_eq_nil_of_misses (h : r.Misses s []) : r.anywhere.findAll s = [] := by
  have := findAll_of_misses h
  rwa [List.append_nil] at this

end Pattern
end StateLint.Text
