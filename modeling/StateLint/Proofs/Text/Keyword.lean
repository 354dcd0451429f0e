import StateLint.Proofs.Text.CharClass
import StateLint.Proofs.Text.Search

namespace StateLint.Text

open Reader

variable {α : Type} {r : Reader α} {k s t w : List Char} {c : Char}

structure IsName (s : List Char) : Prop where
  nonempty : s ≠ []
  word     : ∀ c ∈ s, isWord c

namespace IsName

instance : Decidable (IsName s) :=
  decidable_of_iff (s ≠ [] ∧ s.all isWord) ⟨fun h => ⟨h.left, List.all_eq_true.mp h.right⟩,
    fun h => ⟨h.nonempty, List.all_eq_true.mpr h.word⟩⟩

theorem not_mem (h : IsName s) (hc : isWord c = false) : c ∉ s := by
  intro hm
  simp [h.word c hm] at hc

theorem head (h : IsName s) : ∀ c ∈ (s ++ t).head?, isWord c :=
  head_append h.nonempty h.word

theorem literal_none {l : String} (h : IsName l.toList) (ht : ∀ c ∈ t.head?, isWord c = false) :
    literal l t = none := by
  cases t
  case nil => exact literal_nil h.nonempty
  case cons c cs =>
    obtain ⟨d, ds, hd⟩ := List.exists_cons_of_ne_nil h.nonempty
    refine literal_cons hd fun hc => ?_
    have hw := h.word d (by simp [hd])
    simp [← hc, ht c rfl] at hw

theorem read (h : IsName s) (ht : ∀ c ∈ t.head?, isWord c = false) : name (s ++ t) = some (s, t) :=
  run1_append h.nonempty h.word ht

end IsName

namespace Reader

namespace Keyword

end Keyword
end Reader
end StateLint.Text
