import Mathlib.Data.List.Basic
import Mathlib.Data.List.Induction

namespace StateLint

variable {α : Type} [DecidableEq α]

theorem eraseDups_append_singleton (l : List α) (a : α) :
    (l ++ [a]).eraseDups = if a ∈ l then l.eraseDups else l.eraseDups ++ [a] := by
  rw [List.eraseDups_append]
  split
  case isTrue h => simp [List.removeAll, h]
  case isFalse h => simp [List.removeAll, h, List.eraseDups_cons]

theorem pairwise_eraseDups (l : List α) :
    l.eraseDups.Pairwise fun a b => l.idxOf a < l.idxOf b := by
  induction l using List.reverseRecOn
  case nil => exact .nil
  case append_singleton as b hi =>
    -- A further entry leaves the places of the earlier ones as they are.
    have old {a} (ha : a ∈ as) : (as ++ [b]).idxOf a = as.idxOf a := List.idxOf_append_of_mem ha
    have hp : as.eraseDups.Pairwise fun x y => (as ++ [b]).idxOf x < (as ++ [b]).idxOf y := by
      refine hi.imp_of_mem fun {x y} hx hy h => ?_
      rwa [old (List.mem_eraseDups.mp hx), old (List.mem_eraseDups.mp hy)]
    rw [eraseDups_append_singleton]
    split
    case isTrue => exact hp
    case isFalse hb =>
      refine List.pairwise_append.mpr ⟨hp, List.pairwise_singleton _ _, fun x hx y hy => ?_⟩
      have hx := List.mem_eraseDups.mp hx
      cases List.mem_singleton.mp hy
      rw [old hx, List.idxOf_append_of_notMem hb]
      exact Nat.lt_of_lt_of_le (List.idxOf_lt_length_of_mem hx) (Nat.le_add_right ..)

theorem nodup_eraseDups (l : List α) : l.eraseDups.Nodup := by
  refine (pairwise_eraseDups l).imp fun {a b} h he => ?_
  rw [he] at h
  exact Nat.lt_irrefl _ h

theorem perm_eraseDups {l m : List α} (h : ∀ a, a ∈ l ↔ a ∈ m) : l.eraseDups.Perm m.eraseDups := by
  apply (List.perm_ext_iff_of_nodup (nodup_eraseDups l) (nodup_eraseDups m)).mpr
  intro a
  rw [List.mem_eraseDups, List.mem_eraseDups, h]

-- Behind the same entries, further ones that are all equal are told from others by what is in the
-- lists.
theorem eraseDups_append_eq_iff {l m n : List α} {a : α} (hm : ∀ b ∈ m, b = a) :
    (l ++ m).eraseDups = (l ++ n).eraseDups ↔ ∀ b, b ∈ l ++ m ↔ b ∈ l ++ n := by
  constructor
  case mp =>
    intro h b
    rw [← List.mem_eraseDups, h, List.mem_eraseDups]
  case mpr =>
    intro h
    have hp := perm_eraseDups h
    rw [List.eraseDups_append, List.eraseDups_append] at hp ⊢
    have hp := (List.perm_append_left_iff _).mp hp
    have hr : ∀ b ∈ (m.removeAll l).eraseDups, b = a := fun b hb =>
      hm b (List.mem_filter.mp (List.mem_eraseDups.mp hb)).left
    -- Equal entries are in order whatever the order is.
    have hr := List.eq_replicate_of_mem hr
    rw [hr] at hp
    rw [List.perm_replicate.mp hp.symm, ← hr]

theorem eraseDups_map {β : Type} [DecidableEq β] {f : α → β} (hf : Function.Injective f)
    (l : List α) :
    (l.map f).eraseDups = l.eraseDups.map f := by
  induction l using List.reverseRecOn
  case nil => rfl
  case append_singleton as b hi =>
    have hm : f b ∈ as.map f ↔ b ∈ as := List.mem_map_of_injective hf
    simp only [List.map_append, List.map_singleton, eraseDups_append_singleton, hm, hi]
    split <;> simp

omit [DecidableEq α]

theorem eraseDupsBy_sublist (r : α → α → Bool) (l : List α) : (l.eraseDupsBy r).Sublist l := by
  match l with
  | [] => exact .slnil
  | b :: l =>
    have hl := List.length_filter_le (fun c => !r c b) l
    rw [List.eraseDupsBy_cons]
    exact ((eraseDupsBy_sublist r _).trans List.filter_sublist).cons_cons b
termination_by l.length

theorem length_eraseDups_le [BEq α] (l : List α) : l.eraseDups.length ≤ l.length :=
  (eraseDupsBy_sublist _ l).length_le

theorem exists_mem_eraseDupsBy {β : Type} [DecidableEq β] (key : α → β) {l : List α} {a : α}
    (h : a ∈ l) :
    ∃ b ∈ l.eraseDupsBy fun x y => key x == key y, key b = key a := by
  match l with
  | b :: l =>
    have hl := List.length_filter_le (fun c => !decide (key c = key b)) l
    rw [List.eraseDupsBy_cons]
    by_cases hk : key a = key b
    case pos => exact ⟨b, List.mem_cons_self, hk.symm⟩
    case neg =>
      have hm : a ∈ l := (List.mem_cons.mp h).resolve_left fun h => hk (h ▸ rfl)
      have hm : a ∈ l.filter fun c => (key c == key b) = false :=
        List.mem_filter.mpr ⟨hm, by simpa using hk⟩
      have ⟨c, hc, hck⟩ := exists_mem_eraseDupsBy key hm
      exact ⟨c, List.mem_cons_of_mem b hc, hck⟩
termination_by l.length

theorem nodup_map_eraseDupsBy {β : Type} [DecidableEq β] (key : α → β) (l : List α) :
    ((l.eraseDupsBy fun x y => key x == key y).map key).Nodup := by
  match l with
  | [] => exact .nil
  | b :: l =>
    have hl := List.length_filter_le (fun c => !decide (key c = key b)) l
    rw [List.eraseDupsBy_cons, List.map_cons, List.nodup_cons]
    refine ⟨fun hb => ?_, nodup_map_eraseDupsBy key _⟩
    have ⟨c, hc, hk⟩ := List.mem_map.mp hb
    have ⟨_, hc⟩ := List.mem_filter.mp ((eraseDupsBy_sublist _ _).subset hc)
    simp [hk] at hc
termination_by l.length

-- An entry that qualifies stands at a place, and none before it qualifies under the same key.
def FirstAt {β : Type} (p : α → Bool) (key : α → β) (l : List α) (i : Nat) (a : α) : Prop :=
  l[i]? = some a ∧ p a ∧ ∀ j < i, ∀ b, l[j]? = some b → p b → key b ≠ key a

section

variable {β : Type} {p : α → Bool} {key : α → β} {l : List α} {i : Nat} {a b : α}

theorem firstAt_zero : FirstAt p key (b :: l) 0 a ↔ b = a ∧ p a := by
  simp [FirstAt]

variable [DecidableEq β]

-- Behind an entry those qualify first that do so among the entries behind it and, if it qualifies,
-- have another key.
theorem firstAt_succ : FirstAt p key (b :: l) (i + 1) a ↔
    FirstAt (fun c => p c && (!p b || key c ≠ key b)) key l i a := by
  simp only [FirstAt, List.getElem?_cons_succ, Nat.forall_lt_succ_left]
  grind

theorem eraseDupsBy_filter_cons : ((b :: l).filter p).eraseDupsBy (fun x y => key x == key y) =
    (if p b then [b] else []) ++
      (l.filter fun c => p c && (!p b || key c ≠ key b)).eraseDupsBy fun x y => key x == key y := by
  by_cases hp : p b
  case pos => simp [hp, List.eraseDupsBy_cons, List.filter_filter, Bool.and_comm]
  case neg => simp [hp]

theorem exists_places_eraseDupsBy (p : α → Bool) (key : α → β) (l : List α) :
    ∃ places : List Nat, places.Pairwise (· < ·) ∧ (∀ i, i ∈ places ↔ ∃ a, FirstAt p key l i a) ∧
      ((l.filter p).eraseDupsBy fun x y => key x == key y).map some = places.map (l[·]?) := by
  induction l generalizing p
  case nil => exact ⟨[], .nil, by simp [FirstAt], rfl⟩
  case cons b l hi =>
    obtain ⟨places, hs, hm, he⟩ := hi fun c => p c && (!p b || key c ≠ key b)
    refine ⟨(if p b then [0] else []) ++ places.map (· + 1), ?_, fun i => ?_, ?_⟩
    · refine List.pairwise_append.mpr ⟨?_, List.pairwise_map.mpr (hs.imp Nat.succ_lt_succ), ?_⟩
      · split <;> simp
      · simp +contextual [List.mem_ite_nil_right]
    · cases i
      case zero => by_cases hp : p b <;> simp [firstAt_zero, hp]
      case succ i => by_cases hp : p b <;> simp [firstAt_succ, hm, hp]
    · rw [eraseDupsBy_filter_cons, List.map_append, he]
      by_cases hp : p b <;> simp [hp, Function.comp_def]

end

end StateLint
