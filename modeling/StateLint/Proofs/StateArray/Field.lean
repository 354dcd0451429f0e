import StateLint.Proofs.Text.CharClass
import StateLint.Proofs.Text.Pattern
import StateLint.StateArray.Definition

namespace StateLint.StateArray

open Text Reader

-- A text that may stand between two blocks: it starts with a blank, and after its blanks comes
-- nothing or a digit.
structure Gap (w : List Char) : Prop where
  blank : ∀ c ∈ w.head?, isBlank c
  digit : ∀ c ∈ (w.dropWhile isBlank).head?, isDigit c

def Blank (s : List Char) : Prop :=
  ∀ c ∈ s, isBlank c

theorem Blank.suffix {s t : List Char} (h : Blank s) (ht : t <:+ s) : Blank t :=
  fun c hc => h c (ht.subset hc)

theorem dropWhile_eq_nil_iff_blank {s : List Char} : s.dropWhile isBlank = [] ↔ Blank s :=
  List.dropWhile_eq_nil_iff

theorem Blank.not_mem {s : List Char} (h : Blank s) {c : Char} (hc : isBlank c = false) : c ∉ s :=
  not_mem_of_isBlank h hc

theorem Blank.gap {s : List Char} (h : Blank s) : Gap s where
  blank _ hc := h _ (List.mem_of_head? hc)
  digit := by simp [dropWhile_eq_nil_iff_blank.mpr h]

def Solid (l : String) : Prop :=
  ∀ c ∈ l.toList, isBlank c = false

namespace Gap

variable {α : Type} {l key : String} {w : List Char}

theorem head_not_mem (h : Gap w) (hl : Solid l) : ∀ c ∈ w.head?, c ∉ l.toList := by
  intro c hc hm
  have := hl c hm
  simp [h.blank c hc] at this

theorem literal (h : Gap w) (hl : Solid l) : (literal l).Ignores w :=
  .literal (h.head_not_mem hl)

theorem literal_dropWhile (h : Gap w) {c cs} (hc : l.toList = c :: cs) (hd : isDigit c = false) :
    Reader.literal l (w.dropWhile isBlank) = none := by
  cases hw : w.dropWhile isBlank
  case nil => exact literal_nil (by simp [hc])
  case cons d ds =>
    refine literal_cons hc ?_
    rintro rfl
    simp [h.digit d (by simp [hw])] at hd

theorem blanks_literal {r : Reader α} (h : Gap w) (hl : Solid l) {c cs} (hc : l.toList = c :: cs)
    (hd : isDigit c = false) (hr : r.Ignores w) :
    (blanks >>= fun _ => Reader.literal l >>= fun _ => r).Ignores w :=
  .blanks_literal (by simp [hc]) (h.head_not_mem hl) (h.literal_dropWhile hc hd) hr

theorem keyed {r : Reader α} (h : Gap w) (hl : Solid key) (hr : r.Ignores w) :
    (do
      Reader.literal "\""
      Reader.literal key
      Reader.literal "\""
      blanks
      Reader.literal "=>"
      r).Ignores w :=
  have hq : Solid "\"" := by simp [Solid, isBlank]
  .bind (h.literal hq) fun _ => .bind (h.literal hl) fun _ => .bind (h.literal hq) fun _ =>
    h.blanks_literal (by simp [Solid, isBlank]) rfl rfl hr

end Gap

variable {key : String} {w : List Char}

theorem textField_ignores (hl : Solid key) (h : Blank w) : (textField key).Ignores w :=
  h.gap.keyed hl <| h.gap.blanks_literal (by simp [Solid, isBlank]) rfl rfl <|
    .run_literal rfl (h.not_mem rfl) fun _ => .pure _

theorem listField_ignores (hl : Solid key) (h : Blank w) : (listField key).Ignores w :=
  h.gap.keyed hl <| h.gap.blanks_literal (by simp [Solid, isBlank]) rfl rfl <|
    .run_literal rfl (h.not_mem rfl) fun _ => .pure _

theorem quoted_of_ne {α : Type} {k : Unit → Reader α} {c : Char} (h : c ≠ '"') (cs : List Char) :
    (literal "\"" >>= k) (c :: cs) = none := by
  rw [bind_eq, literal_cons rfl h]
  rfl

theorem quoted_of_separator {α : Type} {k : Unit → Reader α} (c : Char) (h : c = ',' ∨ c = ' ') :
    ∀ cs, (literal "\"" >>= k) (c :: cs) = none := by
  apply quoted_of_ne
  cases h <;> subst c <;> decide

theorem find?_quoted_blank {α : Type} {k : Unit → Reader α} (h : Blank w) :
    (literal "\"" >>= k).anywhere.find? w = none := by
  refine Pattern.find?_go_of_none fun t ht => ?_
  cases t
  case nil => simp [bind_eq, literal_nil]
  case cons c cs =>
    apply quoted_of_ne
    rintro rfl
    exact (h.suffix ht).not_mem rfl List.mem_cons_self

namespace Block

variable {id body : List Char}

theorem text_append_blank (hl : Solid key) (h : Blank w) :
    Block.text ⟨id, body ++ w⟩ key = Block.text ⟨id, body⟩ key := by
  have hw : (textField key).anywhere.find? w = none := find?_quoted_blank h
  simp only [text, Pattern.find?_append (textField_ignores hl h), hw, Option.or_none]
  cases (textField key).anywhere.find? body <;> rfl

theorem list_append_blank (hl : Solid key) (h : Blank w) :
    Block.list ⟨id, body ++ w⟩ key = Block.list ⟨id, body⟩ key := by
  have hw : (listField key).anywhere.find? w = none := find?_quoted_blank h
  simp only [list, Pattern.find?_append (listField_ignores hl h), hw, Option.or_none]
  cases (listField key).anywhere.find? body <;> rfl

theorem definition?_append_blank {location : String} (h : Blank w) :
    definition? location ⟨id, body ++ w⟩ = definition? location ⟨id, body⟩ := by
  have hs : Solid "name" ∧ Solid "type" ∧ Solid "description" ∧ Solid "descriptionmyturn" ∧
    Solid "action" ∧
      Solid "transitions" ∧ Solid "possibleactions" := by
    simp [Solid, isBlank]
  simp only [definition?, text?, transitions, actions, text_append_blank, list_append_blank, hs, h]

end Block
end StateLint.StateArray
