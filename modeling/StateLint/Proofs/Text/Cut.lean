import StateLint.Proofs.Text.Search

namespace StateLint.Text.Pattern

open Reader

variable {α : Type} {r : Reader α} {s t front front' : List Char}

structure Piece (α : Type) where
  value : α
  read : List Char
  body : List Char

-- A text that is cut at the places where a reader reads. The search goes on behind what is read, so
-- nothing is read in the text in front of the first place, nor in the body behind each.
inductive IsCut (r : Reader α) : List Char → List (Piece α) → List Char → Prop
  | last {s : List Char} : r.Misses s [] → IsCut r s [] s
  | next {front read rest body : List Char} {a : α} {pieces : List (Piece α)} :
    r.Misses front (read ++ rest) → read ≠ [] → r (read ++ rest) = some (a, rest) →
      IsCut r body pieces rest → IsCut r front (⟨a, read, body⟩ :: pieces) (front ++ (read ++ rest))

namespace IsCut

variable {pieces pieces' : List (Piece α)}

theorem cons {c : Char} (hc : r (c :: s) = none) (h : IsCut r front pieces s) :
    IsCut r (c :: front) pieces (c :: s) := by
  cases h
  case last hm => exact .last ⟨by simpa using hc, hm⟩
  case next hn hr h hm => exact .next ⟨hc, hm⟩ hn hr h

theorem text_eq (h : IsCut r front pieces s) :
    s = front ++ pieces.flatMap fun x => x.read ++ x.body := by
  induction h
  case last => simp
  case next hi => rw [List.flatMap_cons, List.append_assoc, ← hi]

theorem cut_go_eq (h : IsCut r front pieces s) :
    cut.go r.anywhere 0 none s = (front, pieces.map fun x => (x.value, x.body)) := by
  induction h
  case last s hm =>
    have := cut_go_of_misses hm none
    rw [List.append_nil] at this
    simp [this, cut.go]
  case next hm hn hr _ hi => simp [cut_go_of_misses hm, cut_go_of_reads hn hr, hi]

theorem cut_eq (h : IsCut r front pieces s) :
    r.anywhere.cut s = pieces.map fun x => (x.value, x.body) :=
  congrArg Prod.snd h.cut_go_eq

theorem unique (h : IsCut r front pieces s) (h' : IsCut r front' pieces' s) :
    front' = front ∧ pieces' = pieces := by
  have ⟨hf, hp⟩ := Prod.mk.inj (h'.cut_go_eq.symm.trans h.cut_go_eq)
  refine ⟨hf, ?_⟩
  induction h generalizing front' pieces'
  case last => simpa using hp
  case next front read rest body a pieces hm hn hr h hi =>
    subst hf
    generalize hs : front' ++ (read ++ rest) = s at h'
    cases h'
    case last => simp at hp
    case next read' rest' body' a' pieces' hn' hr' h' hm' =>
      have hs := List.append_cancel_left hs
      obtain ⟨rfl, rfl⟩ : a = a' ∧ rest = rest' := by simpa [hs, hr'] using hr.symm
      obtain rfl := List.append_cancel_right hs
      have ⟨hf, hp⟩ := Prod.mk.inj (h'.cut_go_eq.symm.trans h.cut_go_eq)
      rw [hi h' hf hp, hf]

end IsCut

theorem exists_isCut (hl : r.LeavesEnd) (ha : r.Advances) (s : List Char) :
    ∃ front pieces, IsCut r front pieces s := by
  match s with
  | [] => exact ⟨[], [], .last trivial⟩
  | c :: cs =>
    cases hr : r (c :: cs)
    case none =>
      have ⟨front, pieces, h⟩ := exists_isCut hl ha cs
      exact ⟨c :: front, pieces, h.cons hr⟩
    case some x =>
      have shorter : x.2.length < (c :: cs).length := ha hr
      have ⟨read, hs⟩ := hl hr
      have ⟨front, pieces, h⟩ := exists_isCut hl ha x.2
      have hn : read ≠ [] := by
        rintro rfl
        simp [← hs] at shorter
      exact ⟨[], ⟨x.1, read, front⟩ :: pieces, hs ▸ .next trivial hn (hs ▸ hr) h⟩
termination_by s.length
decreasing_by
  · exact Nat.lt_succ_self cs.length
  · exact shorter

end StateLint.Text.Pattern
