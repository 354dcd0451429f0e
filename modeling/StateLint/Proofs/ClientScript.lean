import StateLint.ClientScript
import StateLint.Proofs.Text.Pattern

namespace StateLint.ClientScript

open Text Reader

theorem actionCall_eq_some {s t : List Char} {n : String} (h : actionCall s = some (n, t)) :
    ∀ c ∈ n.toList, isWord c := by
  have ⟨_, _, _, h⟩ := bind_eq_some.mp h
  have ⟨_, _, _, h⟩ := bind_eq_some.mp h
  have ⟨_, _, _, h⟩ := bind_eq_some.mp h
  have ⟨_, _, _, h⟩ := bind_eq_some.mp h
  have ⟨v, _, hv, h⟩ := bind_eq_some.mp h
  have ⟨hn, _⟩ := pure_eq_some.mp h
  rw [← hn, String.toList_ofList]
  exact quotedName_eq_some hv

theorem actionAddress_eq_some {s t : List Char} {n : String} (h : actionAddress s = some (n, t)) :
    ∀ c ∈ n.toList, isWord c := by
  have ⟨_, _, _, h⟩ := bind_eq_some.mp h
  have ⟨_, _, _, h⟩ := bind_eq_some.mp h
  have ⟨_, _, _, h⟩ := bind_eq_some.mp h
  have ⟨_, _, _, h⟩ := bind_eq_some.mp h
  have ⟨_, _, _, h⟩ := bind_eq_some.mp h
  have ⟨v, _, hv, h⟩ := bind_eq_some.mp h
  have ⟨_, _, _, h⟩ := bind_eq_some.mp h
  have ⟨hn, _⟩ := pure_eq_some.mp h
  rw [← hn, String.toList_ofList]
  exact (name_eq_some hv).right.right

theorem isWord_of_called {text n : String} (h : n ∈ calledActions text) :
    ∀ c ∈ n.toList, isWord c := by
  rw [calledActions, List.mem_eraseDups, List.mem_append] at h
  cases h
  case inl h =>
    have ⟨_, _, _, _, hn⟩ := Pattern.mem_places h
    exact actionCall_eq_some hn
  case inr h =>
    have ⟨_, _, _, _, hn⟩ := Pattern.mem_places h
    exact actionAddress_eq_some hn

end StateLint.ClientScript
