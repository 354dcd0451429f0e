import Mathlib.Data.List.TakeWhile
import StateLint.Text.Reader

namespace StateLint.Text.Reader

variable {α β : Type} {w : List Char}

theorem bind_eq (r : Reader α) (k : α → Reader β) (s : List Char) :
    (r >>= k) s = (r s).bind fun x => k x.1 x.2 :=
  rfl

theorem orElse_eq (r q : Reader α) (s : List Char) : (r <|> q) s = (r s).or (q s) := by
  show (r s <|> q s) = _
  cases r s <;> rfl

theorem optional_eq_some {r : Reader α} {o : Option α} {s t : List Char}
    (h : optional r s = some (o, t)) :
    s = t ∨ ∃ a, r s = some (a, t) := by
  rw [optional, orElse_eq] at h
  cases Option.or_eq_some_iff.mp h
  case inl h =>
    obtain ⟨⟨a, u⟩, hr, h⟩ := Option.bind_eq_some_iff.mp h
    cases h
    exact .inr ⟨a, hr⟩
  case inr h => exact .inl (pure_eq_some.mp h.right).right

theorem LeavesEnd.orElse {r q : Reader α} (hr : r.LeavesEnd) (hq : q.LeavesEnd) :
    (r <|> q).LeavesEnd := by
  intro s a t h
  rw [orElse_eq] at h
  cases Option.or_eq_some_iff.mp h
  case inl h => exact hr h
  case inr h => exact hq h.right

theorem blanks_bind (r : Reader β) : (blanks >>= fun _ => r) = run isBlank >>= fun _ => r :=
  rfl

theorem one_eq_some {p : Char → Bool} {s t : List Char} {c : Char} :
    one p s = some (c, t) ↔ s = c :: t ∧ p c := by
  cases s
  case nil => simp [one]
  case cons d ds =>
    simp only [one, Option.ite_none_right_eq_some, Option.some.injEq, Prod.mk.injEq,
      List.cons.injEq]
    constructor
    case mp => exact fun ⟨hp, hd, ht⟩ => ⟨⟨hd, ht⟩, hd ▸ hp⟩
    case mpr => exact fun ⟨⟨hd, ht⟩, hp⟩ => ⟨hd ▸ hp, hd, ht⟩

theorem literal_nil {l : String} (h : l.toList ≠ []) : literal l [] = none := by
  cases hl : literal l [] with
  | none => rfl
  | some x => exact absurd (List.append_eq_nil_iff.mp (literal_eq_some.mp hl).symm).left h

theorem literal_advances {l : String} (h : l.toList ≠ []) : (literal l).Advances := by
  intro s _ t hs
  have hl := List.length_pos_iff.mpr h
  rw [literal_eq_some.mp hs, List.length_append]
  omega

theorem literal_cons {l : String} {c d : Char} {cs ds : List Char} (hl : l.toList = d :: ds)
    (h : c ≠ d) :
    literal l (c :: cs) = none := by
  cases hr : literal l (c :: cs) with
  | none => rfl
  | some x =>
    have := literal_eq_some.mp hr
    simp [hl, h] at this

theorem run1_eq (p : Char → Bool) (s : List Char) :
    run1 p s = if s.takeWhile p = [] then none else some (s.takeWhile p, s.dropWhile p) := by
  cases s
  case nil => rfl
  case cons c _ => by_cases h : p c <;> simp [run1, run, h]

theorem takeWhile_length_ne {p : Char → Bool} {s : List Char} (h : s.dropWhile p ≠ []) :
    (s.takeWhile p).length ≠ s.length := by
  intro hl
  have ht := (List.takeWhile_prefix p).eq_of_length hl
  exact h (List.dropWhile_eq_nil_iff.mpr (List.takeWhile_eq_self_iff.mp ht))

theorem isPrefixOf?_append {u w : List Char} (h : ∀ c ∈ w.head?, c ∉ u) (s : List Char) :
    u.isPrefixOf? (s ++ w) = (u.isPrefixOf? s).map (· ++ w) := by
  induction u generalizing s
  case nil => rfl
  case cons d u hi =>
    cases s
    case nil =>
      cases w
      case nil => rfl
      case cons c w =>
        have hd : d ≠ c := fun hd => h c rfl (hd ▸ List.mem_cons_self)
        rw [List.nil_append, isPrefixOf?_cons]
        simp [hd]
        rfl
    case cons e s =>
      have := hi (fun c hc => mt (List.mem_cons_of_mem d) (h c hc)) s
      rw [List.cons_append, isPrefixOf?_cons, isPrefixOf?_cons]
      by_cases he : d = e <;> simp [he, this]

theorem head_append {p : Char → Bool} {v t : List Char} (hn : v ≠ []) (hv : ∀ c ∈ v, p c) :
    ∀ c ∈ (v ++ t).head?, p c := by
  intro c hc
  cases v
  case nil => contradiction
  case cons d _ =>
    have hd : d = c := by simpa using hc
    exact hd ▸ hv d List.mem_cons_self

theorem takeWhile_stop {p : Char → Bool} {v t : List Char} (hv : ∀ c ∈ v, p c)
    (ht : ∀ c ∈ t.head?, p c = false) :
    (v ++ t).takeWhile p = v := by
  rw [List.takeWhile_append_of_pos hv]
  cases t
  case nil => simp
  case cons c _ => simp [ht c rfl]

theorem dropWhile_stop {p : Char → Bool} {v t : List Char} (hv : ∀ c ∈ v, p c)
    (ht : ∀ c ∈ t.head?, p c = false) :
    (v ++ t).dropWhile p = t := by
  rw [List.dropWhile_append_of_pos hv]
  cases t
  case nil => rfl
  case cons c _ => simp [ht c rfl]

theorem eq_of_last_word {c d : Char} {u v m n : List Char} (hm : ∀ c ∈ m, isWord c)
    (hn : ∀ c ∈ n, isWord c) (hc : isWord c = false) (hd : isWord d = false)
    (h : u ++ c :: m = v ++ d :: n) : u = v ∧ m = n := by
  have hr : m.reverse ++ c :: u.reverse = n.reverse ++ d :: v.reverse := by
    simpa using congrArg List.reverse h
  have hm : ∀ c ∈ m.reverse, isWord c := fun c hc => hm c (List.mem_reverse.mp hc)
  have hn : ∀ c ∈ n.reverse, isWord c := fun c hc => hn c (List.mem_reverse.mp hc)
  have hw := congrArg (List.takeWhile isWord) hr
  have hs := congrArg (List.dropWhile isWord) hr
  rw [takeWhile_stop hm (by simpa using hc), takeWhile_stop hn (by simpa using hd),
    List.reverse_inj] at hw
  rw [dropWhile_stop hm (by simpa using hc), dropWhile_stop hn (by simpa using hd)] at hs
  exact ⟨List.reverse_inj.mp (List.cons.inj hs).right, hw⟩

theorem literal_append (l : String) (t : List Char) : literal l (l.toList ++ t) = some ((), t) :=
  literal_eq_some.mpr rfl

theorem blanks_append {v t : List Char} (hv : ∀ c ∈ v, isBlank c)
    (ht : ∀ c ∈ t.head?, isBlank c = false) :
    blanks (v ++ t) = some ((), t) := by
  simp [blanks, dropWhile_stop hv ht]

theorem run1_append {p : Char → Bool} {v t : List Char} (hn : v ≠ []) (hv : ∀ c ∈ v, p c)
    (ht : ∀ c ∈ t.head?, p c = false) : run1 p (v ++ t) = some (v, t) := by
  simp [run1_eq, takeWhile_stop hv ht, dropWhile_stop hv ht, hn]

theorem blanks1_append {v t : List Char} (hn : v ≠ []) (hv : ∀ c ∈ v, isBlank c)
    (ht : ∀ c ∈ t.head?, isBlank c = false) : blanks1 (v ++ t) = some ((), t) := by
  simp [blanks1, run1_append hn hv ht]

theorem run1_eq_append {p : Char → Bool} {s v t : List Char} (h : run1 p s = some (v, t)) :
    v ≠ [] ∧ (∀ c ∈ v, p c) ∧ s = v ++ t := by
  have ⟨hn, hv, ht⟩ := run1_eq_some.mp h
  rw [hv, ht]
  exact ⟨hv ▸ hn, fun _ => List.mem_takeWhile_imp, List.takeWhile_append_dropWhile.symm⟩

theorem blanks1_eq_some {s t : List Char} {u : Unit} (h : blanks1 s = some (u, t)) :
    ∃ b, b ≠ [] ∧ (∀ c ∈ b, isBlank c) ∧ s = b ++ t := by
  have ⟨x, hx, ht⟩ := Option.map_eq_some_iff.mp h
  cases ht
  exact ⟨x.1, run1_eq_append hx⟩

theorem blanks_eq_some {s t : List Char} {u : Unit} (h : blanks s = some (u, t)) :
    ∃ b, (∀ c ∈ b, isBlank c) ∧ s = b ++ t := by
  cases h
  exact ⟨s.takeWhile isBlank, fun c => List.mem_takeWhile_imp, List.takeWhile_append_dropWhile.symm⟩

theorem blanks_cons {c : Char} {t : List Char} (h : isBlank c = false) :
    blanks (' ' :: c :: t) = some ((), c :: t) :=
  blanks_append (v := [' ']) (by simp [isBlank]) (by simp [h])

theorem bne_of_not_mem {q : Char} {v : List Char} (h : q ∉ v) : ∀ c ∈ v, (c != q) = true := by
  simpa using fun c hc => ne_of_mem_of_not_mem hc h

theorem run_until {q : Char} {v t : List Char} (h : q ∉ v) :
    run (· != q) (v ++ q :: t) = some (v, q :: t) := by
  have ht : ∀ c ∈ (q :: t).head?, (c != q) = false := by simp
  simp [run, takeWhile_stop (bne_of_not_mem h) ht, dropWhile_stop (bne_of_not_mem h) ht]

theorem run_eq_some {p : Char → Bool} {s v t : List Char} (h : run p s = some (v, t)) :
    (∀ c ∈ v, p c) ∧ s = v ++ t := by
  cases h
  exact ⟨fun _ => List.mem_takeWhile_imp, List.takeWhile_append_dropWhile.symm⟩

theorem run_until_eq_some {q : Char} {s v t : List Char} (h : run (· != q) s = some (v, t)) :
    q ∉ v ∧ s = v ++ t := by
  have ⟨hv, hs⟩ := run_eq_some h
  exact ⟨fun hq => by simpa using hv q hq, hs⟩

theorem run1_until {q : Char} {v t : List Char} (hn : v ≠ []) (h : q ∉ v) :
    run1 (· != q) (v ++ q :: t) = some (v, q :: t) :=
  run1_append hn (bne_of_not_mem h) (by simp)

theorem blanks1_leavesEnd : LeavesEnd blanks1 := by
  intro s _ t h
  have ⟨x, hx, ht⟩ := Option.map_eq_some_iff.mp h
  cases ht
  exact run1_leavesEnd isBlank hx

theorem name_eq_some {s v t : List Char} (h : name s = some (v, t)) :
    v ≠ [] ∧ s = v ++ t ∧ ∀ c ∈ v, isWord c := by
  have ⟨hn, hv, hs⟩ := run1_eq_append h
  exact ⟨hn, hs, hv⟩

theorem quotedName_eq_some {s v t : List Char} (h : quotedName s = some (v, t)) :
    ∀ c ∈ v, isWord c := by
  have ⟨_, _, _, h⟩ := bind_eq_some.mp h
  have ⟨_, _, hn, h⟩ := bind_eq_some.mp h
  have ⟨_, _, _, h⟩ := bind_eq_some.mp h
  have ⟨hv, _⟩ := pure_eq_some.mp h
  exact hv ▸ (name_eq_some hn).right.right

-- The text `w`, standing behind what is left to read, changes nothing: what is read ends before it.
def Ignores (r : Reader α) (w : List Char) : Prop :=
  ∀ s, r (s ++ w) = (r s).map fun x => (x.1, x.2 ++ w)

namespace Ignores

theorem pure (a : α) : Ignores (Pure.pure a : Reader α) w :=
  fun _ => rfl

theorem bind {r : Reader α} {k : α → Reader β} (hr : r.Ignores w) (hk : ∀ a, (k a).Ignores w) :
    (r >>= k).Ignores w := by
  intro s
  simp only [bind_eq, hr s]
  cases r s with
  | none => rfl
  | some x => exact hk x.1 x.2

theorem literal {l : String} (h : ∀ c ∈ w.head?, c ∉ l.toList) : (literal l).Ignores w := by
  intro s
  simp [Reader.literal, isPrefixOf?_append h, Function.comp_def]

theorem run1 {p : Char → Bool} (h : ∀ c ∈ w.head?, p c = false) : (run1 p).Ignores w := by
  have hw : w.takeWhile p = [] ∧ w.dropWhile p = w := by
    cases w
    case nil => simp
    case cons c _ => simp [h c rfl]
  intro s
  simp only [run1_eq, List.takeWhile_append, List.dropWhile_append, hw]
  by_cases hs : s.dropWhile p = []
  case pos =>
    have ht : s.takeWhile p = s := List.takeWhile_eq_self_iff.mpr (List.dropWhile_eq_nil_iff.mp hs)
    simp [hs, ht]
    split <;> simp
  case neg =>
    simp [hs, takeWhile_length_ne hs]
    split <;> simp

-- A run of characters may well go on into `w`. That does no harm if nothing can be read from where
-- it then ends.
theorem run_bind {p : Char → Bool} {k : List Char → Reader β} (hk : ∀ v, (k v).Ignores w)
    (hnil : ∀ v, k v [] = none) (hw : ∀ v, k v (w.dropWhile p) = none) :
    (run p >>= k).Ignores w := by
  intro s
  simp only [bind_eq, run, Option.bind_some, List.takeWhile_append, List.dropWhile_append]
  by_cases hs : s.dropWhile p = []
  case pos => simp [hs, hnil, hw]
  case neg => simp [hs, takeWhile_length_ne hs, hk _ _]

theorem blanks_bind {r : Reader β} (hr : r.Ignores w) (hn : r [] = none)
    (hw : r (w.dropWhile isBlank) = none) :
    (blanks >>= fun _ => r).Ignores w := by
  rw [Reader.blanks_bind]
  exact run_bind (fun _ => hr) (fun _ => hn) (fun _ => hw)

theorem blanks_literal {l : String} {r : Reader β} (hl : l.toList ≠ [])
    (hw : ∀ c ∈ w.head?, c ∉ l.toList) (hb : Reader.literal l (w.dropWhile isBlank) = none)
    (hr : r.Ignores w) :
    (blanks >>= fun _ => Reader.literal l >>= fun _ => r).Ignores w := by
  refine blanks_bind (.bind (.literal hw) fun _ => hr) ?_ ?_
  · simp [bind_eq, literal_nil hl]
  · simp [bind_eq, hb]

theorem run_literal {q : Char} {l : String} {k : List Char → Reader β} (hl : l.toList = [q])
    (hw : q ∉ w) (hk : ∀ v, (k v).Ignores w) :
    (run (· != q) >>= fun v => Reader.literal l >>= fun _ => k v).Ignores w := by
  have hn (v) : (Reader.literal l >>= fun _ => k v) [] = none := by simp [bind_eq, literal_nil, hl]
  refine run_bind (fun v => .bind (.literal fun c hc => ?_) fun _ => hk v) hn fun v => ?_
  · have : c ∈ w := List.mem_of_head? hc
    simp only [hl, List.mem_singleton]
    rintro rfl
    contradiction
  · rw [List.dropWhile_eq_nil_iff.mpr fun c hc => by simpa using ne_of_mem_of_not_mem hc hw]
    exact hn v

end Ignores

def Requires (r : Reader α) (c : Char) : Prop :=
  ∀ ⦃s⦄, c ∉ s → r s = none

namespace Requires

variable {c : Char}

theorem literal {l : String} (h : c ∈ l.toList) : (literal l).Requires c := by
  intro s hs
  apply Option.eq_none_iff_forall_ne_some.mpr
  intro x hx
  rw [literal_eq_some.mp hx] at hs
  exact hs (List.mem_append_left _ h)

theorem bind {r : Reader α} {k : α → Reader β} (hr : r.LeavesEnd) (hk : ∀ a, (k a).Requires c) :
    (r >>= k).Requires c := by
  intro s hs
  rw [bind_eq]
  cases h : r s
  case none => rfl
  case some x => exact hk x.1 fun hc => hs ((hr h).subset hc)

theorem bind_left {r : Reader α} {k : α → Reader β} (hr : r.Requires c) : (r >>= k).Requires c := by
  intro s hs
  rw [bind_eq, hr hs]
  rfl

end Requires
end StateLint.Text.Reader
