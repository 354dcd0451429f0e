import Mathlib.Data.List.Pairwise
import StateLint.Proofs.ServerScript.SendForm

namespace StateLint.ServerScript

open Text Reader Pattern

variable {s t u v tail : List Char} {c : Char} {x y : List Char × Nat}

def located (r : Reader (List Char)) : Reader (List Char × Nat) :=
  fun s => (r s).map fun (n, t) => ((n, n.length + 1 + t.length), t)

theorem located_eq_none {r : Reader (List Char)} : located r s = none ↔ r s = none :=
  Option.map_eq_none_iff

theorem located_eq_some {r : Reader (List Char)} :
    located r s = some (x, t) ↔ r s = some (x.1, t) ∧ x.2 = x.1.length + 1 + t.length := by
  simp only [located, Option.map_eq_some_iff, Prod.mk.injEq, Prod.exists]
  constructor
  case mp =>
    rintro ⟨n, u, hr, rfl, rfl⟩
    exact ⟨hr, rfl⟩
  case mpr =>
    rintro ⟨hr, hx⟩
    exact ⟨_, _, hr, Prod.ext rfl hx.symm, rfl⟩

theorem located_orElse (r q : Reader (List Char)) :
    located (r <|> q) = (located r <|> located q) := by
  funext s
  rw [orElse_eq, located, orElse_eq, located, located]
  cases r s <;> rfl

theorem misses_located {r : Reader (List Char)} (h : r.Misses s t) : (located r).Misses s t := by
  induction s
  case nil => trivial
  case cons c cs hi => exact ⟨located_eq_none.mpr h.left, hi h.right⟩

theorem separate_located {r : Reader (List Char)} (h : r.Separate) : (located r).Separate := by
  intro c s x t hx
  have ⟨u, hu, hm⟩ := h (located_eq_some.mp hx).left
  exact ⟨u, hu, misses_located hm⟩

-- A send that starts in the last word in front of the parenthesis of another one has the same name,
-- or a later one.
theorem within_le (hx : nameFirst tail = some (x.1, t)) (hk : x.2 = x.1.length + 1 + t.length)
    (hu : '(' ∉ u) (hy : located sendOf (u ++ '(' :: tail) = some (y, v)) :
    y.2 ≤ x.2 ∧ (y.2 = x.2 → y = x) := by
  have ⟨hy, hk'⟩ := located_eq_some.mp hy
  have ⟨front, back, tail', ho, hs, hn⟩ := sendOf_opening hy
  have hs : u ++ '(' :: tail = ('n' :: (front ++ back)) ++ '(' :: tail' := by simpa using hs
  -- The two have the parenthesis in common, and the text behind it.
  obtain ⟨_, rfl⟩ := eq_of_append_cons hu ho.not_paren hs
  cases hn
  case inl hn =>
    obtain ⟨hn, rfl⟩ := Prod.mk.inj (Option.some.inj (hn.symm.trans hx))
    have hk : y.2 = x.2 := by rw [hk', hk, hn]
    exact ⟨Nat.le_of_eq hk, fun _ => Prod.ext hn hk⟩
  case inr hn =>
    have := length_lt_of_second hx hn.right
    exact ⟨by omega, fun h => by omega⟩

theorem le_length (hx : x ∈ (located sendOf).anywhere.places s) : x.2 ≤ s.length := by
  have ⟨_, u, t, hu, hx⟩ := mem_places hx
  have ⟨hx, hk⟩ := located_eq_some.mp hx
  have ⟨front, back, tail, _, hs, hn⟩ := sendOf_opening hx
  have lower := (named_of_eq_some hn).length_le
  have upper := hu.length_le
  rw [hs] at upper
  simp only [List.length_cons, List.length_append] at upper
  omega

-- A send that starts behind another one has its name behind the other's, or is a part of it.
theorem later_le (hx : located sendOf (c :: s) = some (x, t))
    (hy : y ∈ (located sendOf).anywhere.places s) :
    y.2 ≤ x.2 ∧ (y.2 = x.2 → y = x) := by
  have ⟨hx, hk⟩ := located_eq_some.mp hx
  have ⟨front, back, tail, ho, hs, hn⟩ := sendOf_opening hx
  rw [(List.cons.inj hs).right, places_of_misses (misses_located (ho.misses _))] at hy
  cases mem_places_append hy
  case inl h =>
    have ⟨u, v, hu, hv⟩ := h
    have nonempty : back ≠ [] := by
      rintro rfl
      have none : located sendOf ('(' :: tail) = none :=
        located_eq_none.mpr (sendOf_cons (by decide) _)
      rw [List.suffix_nil.mp hu, List.nil_append, none] at hv
      contradiction
    have paren : '(' ∉ u :=
      fun hc => ho.not_paren (List.mem_cons_of_mem _ (List.mem_append_right _ (hu.subset hc)))
    exact within_le (hn.resolve_right fun h => nonempty h.left) hk paren hv
  case inr hy =>
    have ⟨u, hu, closed⟩ := (named_of_eq_some hn).misses
    rw [hu, ← List.cons_append, places_of_misses (misses_located closed)] at hy
    have := le_length hy
    exact ⟨by omega, fun h => by omega⟩

theorem pairwise_located (s : List Char) :
    ((located sendOf).anywhere.places s).Pairwise fun x y => y.2 ≤ x.2 ∧ (y.2 = x.2 → y = x) := by
  induction s
  case nil => exact .nil
  case cons c cs hi =>
    rw [places_anywhere_cons]
    cases hx : located sendOf (c :: cs)
    case none => exact hi
    case some x => exact List.pairwise_cons.mpr ⟨fun y hy => later_le hx hy, hi⟩

def found (s : List Char) : List (List Char × Nat) :=
  (located sendToAll).anywhere.findAll s ++
    ((located sendToOne).anywhere.findAll s ++ (located sendToAllPlayers).anywhere.findAll s)

def merged (text : String) : List String :=
  (((found text.toList).mergeSort fun x y => y.2 ≤ x.2).map fun x => String.ofList x.1).eraseDups

theorem located_perm (s : List Char) : ((located sendOf).anywhere.places s).Perm (found s) := by
  have one {r q : Reader (List Char)} {s} (h : r s = none ∨ q s = none) : located r s = none ∨
      located q s = none :=
    h.imp located_eq_none.mpr located_eq_none.mpr
  have first := places_orElse_perm (fun s => one (one_form s).left) s
  have second := places_orElse_perm (fun s => one (one_form s).right) s
  rw [← located_orElse] at first second
  rw [found, findAll_eq_places (separate_located sendToAll_separate),
    findAll_eq_places (separate_located sendToOne_separate),
      findAll_eq_places (separate_located sendToAllPlayers_separate)]
  exact first.trans (second.append_left _)

theorem eq_of_located (hx : x ∈ (located sendOf).anywhere.places s)
    (hy : y ∈ (located sendOf).anywhere.places s) (h : x.2 = y.2) : x = y := by
  have symm : Std.Symm fun x y : List Char × Nat => y.2 = x.2 → y = x :=
    ⟨fun _ _ hxy h => (hxy h.symm).symm⟩
  have same := ((pairwise_located s).imp And.right).forall_of_forall (fun _ _ _ => rfl)
  exact same hy hx h

theorem mergeSort_found (s : List Char) :
    (found s).mergeSort (fun x y => y.2 ≤ x.2) = (located sendOf).anywhere.places s := by
  have order : ((located sendOf).anywhere.places s).Pairwise fun x y => decide (y.2 ≤ x.2) :=
    (pairwise_located s).imp fun h => decide_eq_true h.left
  have sorted : ((found s).mergeSort fun x y => y.2 ≤ x.2).Pairwise fun x y => decide (y.2 ≤ x.2) :=
    List.pairwise_mergeSort (fun _ _ _ hx hy => by simp only [decide_eq_true_eq] at *; omega)
      (fun _ _ => by simp; omega) _
  have same := (List.mergeSort_perm (found s) fun x y => y.2 ≤ x.2).trans (located_perm s).symm
  refine same.eq_of_pairwise (fun x y hx hy hxy hyx => ?_) sorted order
  exact eq_of_located (same.mem_iff.mp hx) hy
    (Nat.le_antisymm (of_decide_eq_true hyx) (of_decide_eq_true hxy))

theorem places_located (s : List Char) :
    sendOf.anywhere.places s = ((located sendOf).anywhere.places s).map (·.1) := by
  refine places_map (fun s => ?_) s
  rw [located, Option.map_map]
  rfl

theorem places_send (s : List Char) :
    send.anywhere.places s = (sendOf.anywhere.places s).map String.ofList := by
  refine places_map (fun s => ?_) s
  show ((sendOf s).bind fun x => some (String.ofList x.1, x.2)).map (·.1) = _
  cases sendOf s <;> rfl

theorem sentNotifications_eq_merged (text : String) : sentNotifications text = merged text := by
  rw [sentNotifications, merged, mergeSort_found, places_send, places_located, List.map_map]
  rfl

end StateLint.ServerScript
