import Mathlib.Data.List.Basic

namespace StateLint

variable {α : Type} {key : α → Nat} {l : List α} {k : Nat}

theorem key_trans (key : α → Nat) (a b c : α) (hab : decide (key a ≤ key b))
    (hbc : decide (key b ≤ key c)) :
    decide (key a ≤ key c) := by
  simp only [decide_eq_true_eq] at *
  exact Nat.le_trans hab hbc

theorem key_total (key : α → Nat) (a b : α) : decide (key a ≤ key b) || decide (key b ≤ key a) := by
  simpa using Nat.le_total (key a) (key b)

theorem pairwise_mergeSort_key (key : α → Nat) (l : List α) :
    (l.mergeSort fun a b => key a ≤ key b).Pairwise fun a b => key a ≤ key b := by
  simpa using List.pairwise_mergeSort (key_trans key) (key_total key) l

theorem filter_mergeSort_key (key : α → Nat) (l : List α) (k : Nat) :
    (l.mergeSort fun a b => key a ≤ key b).filter (key · = k) = l.filter (key · = k) := by
  have hp : (l.filter (key · = k)).Pairwise fun a b => decide (key a ≤ key b) := by
    apply List.pairwise_of_forall_mem_list
    intro a ha b hb
    simp only [List.mem_filter, decide_eq_true_eq] at ha hb
    simp [ha.right, hb.right]
  -- They are in order before the list is sorted, so they are found in the sorted one as they are.
  have hs := List.sublist_mergeSort (key_trans key) (key_total key) hp List.filter_sublist
  replace hs := hs.filter (key · = k)
  rw [List.filter_filter] at hs
  simp only [Bool.and_self] at hs
  exact (hs.eq_of_length (((List.mergeSort_perm l _).filter _).length_eq).symm).symm

theorem filter_append_filter_of_least (hl : l.Pairwise fun a b => key a ≤ key b)
    (hk : ∀ a ∈ l, k ≤ key a) :
    l.filter (key · = k) ++ l.filter (key · ≠ k) = l := by
  induction l
  case nil => rfl
  case cons a as hi =>
    have ⟨ha, hs⟩ := List.pairwise_cons.mp hl
    have ⟨hka, hks⟩ := List.forall_mem_cons.mp hk
    by_cases h : key a = k
    case pos => simpa [h] using hi hs hks
    case neg =>
      have hn : ∀ b ∈ as, key b ≠ k := fun b hb => by
        have := ha b hb
        omega
      have he : as.filter (key · = k) = [] :=
        List.filter_eq_nil_iff.mpr fun b hb => by simpa using hn b hb
      have hf : as.filter (key · ≠ k) = as :=
        List.filter_eq_self.mpr fun b hb => by simpa using hn b hb
      rw [List.filter_cons_of_neg (by simpa using h), List.filter_cons_of_pos (by simpa using h),
        he, hf, List.nil_append]

theorem eq_flatMap_filter_of_sorted {keys : List Nat} (hk : keys.Pairwise (· < ·))
    (hl : l.Pairwise fun a b => key a ≤ key b) (hm : ∀ a ∈ l, key a ∈ keys) :
    l = keys.flatMap fun k => l.filter (key · = k) := by
  induction keys generalizing l
  case nil => exact List.eq_nil_iff_forall_not_mem.mpr fun a ha => List.not_mem_nil (hm a ha)
  case cons k ks hi =>
    have ⟨hlt, hs⟩ := List.pairwise_cons.mp hk
    have least : ∀ a ∈ l, k ≤ key a := fun a ha => by
      cases List.mem_cons.mp (hm a ha)
      case inl h => exact Nat.le_of_eq h.symm
      case inr h => exact Nat.le_of_lt (hlt _ h)
    have rest : ∀ a ∈ l.filter (key · ≠ k), key a ∈ ks := fun a ha => by
      have ⟨ha, hn⟩ := List.mem_filter.mp ha
      exact (List.mem_cons.mp (hm a ha)).resolve_left (by simpa using hn)
    have parts : (ks.flatMap fun i => (l.filter (key · ≠ k)).filter (key · = i)) =
        ks.flatMap fun i => l.filter (key · = i) := by
      refine List.flatMap_congr fun i hi => ?_
      rw [List.filter_filter]
      refine List.filter_congr fun a _ => ?_
      have := hlt i hi
      by_cases h : key a = i <;> simp [h]
      omega
    rw [List.flatMap_cons, ← parts, ← hi hs (hl.filter _) rest,
      filter_append_filter_of_least hl least]

-- A sorted list is put together from the entries of each key.
theorem mergeSort_key_eq {keys : List Nat} (hk : keys.Pairwise (· < ·))
    (hm : ∀ a ∈ l, key a ∈ keys) :
    (l.mergeSort fun a b => key a ≤ key b) = keys.flatMap fun k => l.filter (key · = k) := by
  have hs := eq_flatMap_filter_of_sorted hk (pairwise_mergeSort_key key l) fun a ha =>
    hm a (List.mem_mergeSort.mp ha)
  simp only [filter_mergeSort_key] at hs
  exact hs

end StateLint
