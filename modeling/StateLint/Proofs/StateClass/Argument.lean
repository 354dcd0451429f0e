import Mathlib.Data.List.Basic
import StateLint.Proofs.StateClass.Layout

namespace StateLint.StateClass

open Text Reader

variable {α : Type} {r : Reader α} {k s t : List Char} {c : Content} {style : Style}

def argument (key : String) (r : Reader α) : Reader α := do
  literal key
  blanks
  literal ":"
  blanks
  r

def listValue : Reader (List Char) := do
  literal "["
  let items ← run (· != ']')
  literal "]"
  return items

theorem transitionsArgument_eq : transitionsArgument = argument "transitions" listValue :=
  rfl

theorem argument_read {key : String} (ht : ∀ c ∈ t.head?, isBlank c = false) :
    argument key r (key.toList ++ (": ".toList ++ t)) = r t := by
  have hb : blanks (": ".toList ++ t) = some ((), ": ".toList ++ t) := rfl
  have hc : literal ":" (": ".toList ++ t) = some ((), [' '] ++ t) := literal_append ":" _
  have hs : ∀ c ∈ [' '], isBlank c := by simp [isBlank]
  simp only [argument, bind_eq, literal_append, hb, hc, blanks_append hs ht, Option.bind_some]

namespace Outside

end Outside

namespace Style

end Style

theorem transition_eq_behindLabel :
    transition = (do
      let q ← quote
      let label ← run1 (· != q)
      let _ ← one (· == q)
      let target ← behindLabel
      return (.ofList label, target)) := by
  simp [transition, behindLabel]

theorem transition_read {q : Quote} {d : List Char} (hn : s ≠ []) (hs : q.char ∉ s)
    (hd : IsDecimal d) (ht : Ends t) :
    transition (quoted q.char s ++ (" => ".toList ++ d) ++ t) = some ((.ofList s, d), t) := by
  have he : quoted q.char s ++ (" => ".toList ++ d) ++ t =
      q.char :: (s ++ q.char :: (' ' :: '=' :: '>' :: ' ' :: (d ++ t))) := by
    simp [quoted]
  have ho (u) : quote (q.char :: u) = some (q.char, u) := by cases q <;> rfl
  have hc (u) : one (· == q.char) (q.char :: u) = some (q.char, u) := by simp [one]
  rw [he, transition_eq_behindLabel]
  exact bind_eq_some.mpr ⟨_, _, ho _,
    bind_eq_some.mpr ⟨_, _, run1_until hn hs,
    bind_eq_some.mpr ⟨_, _, hc _, bind_eq_some.mpr ⟨_, _, behindLabel_read hd ht, rfl⟩⟩⟩⟩

theorem transition_eq {e : Entry} (h : IsName e.label.toList) (ht : Ends t) :
    transition (e.write ++ t) = some ((e.label, numeral e.target), t) := by
  have hl : e.quote.char ∉ e.label.toList := h.not_mem (by cases e.quote <;> rfl)
  rw [Entry.write, transition_read h.nonempty hl (isDecimal_numeral e.target) ht,
    String.ofList_toList]

theorem findAll_transition {entries : List Entry} (h : ∀ e ∈ entries, IsName e.label.toList) :
    transition.anywhere.findAll (separated (entries.map Entry.write)) =
      entries.map fun e => (e.label, numeral e.target) := by
  refine findAll_separated ?_ ?_ ?_
  · simp [Entry.write, quoted]
  · exact fun e he t ht => transition_eq (h e he) ht
  · intro c hc cs
    cases hc <;> subst c <;> rfl

end StateLint.StateClass
