import StateLint.Proofs.State.LineBreak
import StateLint.Proofs.StateArray.Seam

namespace StateLint.StateArray

open Text Reader

variable {key : String}

theorem textField_carries (hk : Unbroken key) : Carries crlfText (textField key) (textField key) :=
  have hq : Carries id (literal "\"") (literal "\"") := .literal (by decide)
  hq.bind fun _ => (Carries.literal hk).bind fun _ => hq.bind fun _ => .bind .blanks fun _ =>
    .bind (.literal (by decide)) fun _ => .bind .blanks fun _ => hq.bind fun _ =>
      .bind (.run rfl) fun _ => hq.bind fun _ =>
    .pure crlfText_ofList.symm

theorem listField_carries (hk : Unbroken key) : Carries crlf (listField key) (listField key) :=
  have hq : Carries id (literal "\"") (literal "\"") := .literal (by decide)
  hq.bind fun _ => (Carries.literal hk).bind fun _ => hq.bind fun _ => .bind .blanks fun _ =>
    .bind (.literal (by decide)) fun _ => .bind .blanks fun _ =>
      .bind (.literal (by decide)) fun _ => .bind (.run rfl) fun _ =>
    .bind (.literal (by decide)) fun _ => .pure rfl

theorem transition_carries : Carries (fun e => (crlfText e.1, crlf e.2)) transition transition :=
  have hq : Carries id (literal "\"") (literal "\"") := .literal (by decide)
  hq.bind fun _ => .bind (.run rfl) fun _ => hq.bind fun _ => .bind .blanks fun _ =>
    .bind (.literal (by decide)) fun _ =>
    .bind .blanks fun _ => .bind .digits fun _ => .pure (by rw [crlfText_ofList])

theorem item_carries : Carries crlfText item item :=
  have hq : Carries id (literal "\"") (literal "\"") := .literal (by decide)
  hq.bind fun _ => .bind (.run1 rfl) fun _ => hq.bind fun _ => .pure crlfText_ofList.symm

theorem endingDigits_carries : Carries id Block.endingDigits Block.endingDigits :=
  .bind .digits fun _ => .bind .blanks fun _ => .literal (by decide)

theorem transition_consumes : transition.Consumes :=
  (Consumes.literal (by decide)).bind fun _ => (run_leavesEnd _).bind fun _ =>
    (literal_leavesEnd _).bind fun _ =>
    blanks_leavesEnd.bind fun _ => (literal_leavesEnd _).bind fun _ =>
      blanks_leavesEnd.bind fun _ =>
    (run1_leavesEnd _).bind fun _ => .pure _

theorem item_consumes : item.Consumes :=
  (Consumes.literal (by decide)).bind fun _ => (run1_leavesEnd _).bind fun _ =>
    (literal_leavesEnd _).bind fun _ => .pure _

namespace Block

theorem opening_carries : Carries crlf opening opening :=
  .bind .digits fun _ => .bind .blanks fun _ => .bind (.literal (by decide)) fun _ =>
    .bind .blanks fun _ =>
    .bind (.literal (by decide)) fun _ => .pure rfl

theorem opening_inline : Inline opening :=
  .bind (.run1 (isDigit_ascii (by decide)))

theorem ending_crlf (cs : List Char) :
    (ending ('\n' :: crlf cs)).isSome = (ending ('\n' :: cs)).isSome := by
  have hl := Carries.literal (l := "];") (by decide) cs
  rw [ending_lineBreak, ending_lineBreak, dropWhile_crlf rfl, endingDigits_carries, hl,
    Option.isSome_or, Option.isSome_or, Option.isSome_map, Option.isSome_map]

-- A body ends at the same place, or at the line feed behind the carriage return that stands there.
theorem split_crlf (s : List Char) :
    ∃ e t, Blank e ∧ crlf (ending.anywhere.split s).2 = e ++ t ∧
      ending.anywhere.split (crlf s) = (crlf (ending.anywhere.split s).1 ++ e, t) := by
  induction s
  case nil => exact ⟨[], [], by simp [Blank], rfl, rfl⟩
  case cons c cs hi =>
    have ⟨e, t, he, ht, hs⟩ := hi
    by_cases hc : c = '\n'
    case neg =>
      refine ⟨e, t, he, ?_, ?_⟩
      · simpa [Pattern.split_anywhere_cons, ending_of_ne hc] using ht
      · simp [Pattern.split_anywhere_cons, ending_of_ne hc, crlf_cons_of_ne hc, hs]
    case pos =>
      subst hc
      have hr (cs) : ending ('\r' :: cs) = none := ending_of_ne (by decide) cs
      cases h : (ending ('\n' :: cs)).isSome
      case true =>
        refine ⟨['\r'], '\n' :: crlf cs, by simp [Blank, isBlank], ?_, ?_⟩
        · simp [Pattern.split_anywhere_cons, h, crlf_lineFeed]
        · simp [Pattern.split_anywhere_cons, h, crlf_lineFeed, hr, ending_crlf]
      case false =>
        refine ⟨e, t, he, ?_, ?_⟩
        · simpa [Pattern.split_anywhere_cons, h] using ht
        · simp [Pattern.split_anywhere_cons, h, crlf_lineFeed, hr, ending_crlf, hs]

variable {id body : List Char}

theorem text_crlf (hk : Unbroken key) :
    Block.text ⟨crlf id, crlf body⟩ key = crlfText (Block.text ⟨id, body⟩ key) := by
  have h :=
    Pattern.find?_crlf (textField_carries hk).anywhere
    (Inline.anywhere (.literal_bind (by decide) (by decide))) body
  simp only [text, h]
  cases (textField key).anywhere.find? body <;> rfl

theorem list_crlf (hk : Unbroken key) :
    Block.list ⟨crlf id, crlf body⟩ key = crlf (Block.list ⟨id, body⟩ key) := by
  have h :=
    Pattern.find?_crlf (listField_carries hk).anywhere
    (Inline.anywhere (.literal_bind (by decide) (by decide))) body
  simp only [list, h]
  cases (listField key).anywhere.find? body <;> rfl

theorem text?_crlf (hk : Unbroken key) :
    Block.text? ⟨crlf id, crlf body⟩ key = (Block.text? ⟨id, body⟩ key).map crlfText := by
  simp only [text?, text_crlf hk, isEmpty_crlfText]
  split <;> rfl

theorem transitions_crlf :
    Block.transitions ⟨crlf id, crlf body⟩ = (Block.transitions ⟨id, body⟩).relabel crlfText := by
  have hf :=
    Pattern.findAll_crlf transition_carries (.literal_bind (by decide) (by decide))
    transition_consumes
  rw [transitions, list_crlf (by decide), hf, Transitions.ofList_entries_crlf]
  rfl

theorem actions_crlf :
    Block.actions ⟨crlf id, crlf body⟩ = (Block.actions ⟨id, body⟩).map crlfText := by
  have hf := Pattern.findAll_crlf item_carries (.literal_bind (by decide) (by decide)) item_consumes
  simp only [actions, list_crlf (by decide : Unbroken "possibleactions"), hf,
    ← eraseDups_map crlfText_injective, List.map_map]
  congr 2
  funext name
  exact Action.normalName_crlf name

theorem definition?_crlf {location : String} :
    definition? location ⟨crlf id, crlf body⟩ =
      (definition? location ⟨id, body⟩).map StateDefinition.crlf := by
  have hk : Unbroken "name" ∧ Unbroken "type" ∧ Unbroken "description" ∧
    Unbroken "descriptionmyturn" ∧
      Unbroken "action" := by
    decide
  simp only [definition?, number?_crlf, text?_crlf, text_crlf, hk, StateKind.ofType_crlf,
    transitions_crlf, actions_crlf]
  cases number? id
  case none => rfl
  case some n =>
    cases Block.text? ⟨id, body⟩ "name" <;> rfl

end Block

theorem filterMap_blocks_crlf {location : String} (s : List Char) :
    (blocks (crlf s)).filterMap (·.definition? location) =
      ((blocks s).filterMap (·.definition? location)).map StateDefinition.crlf := by
  induction s using blocks.induct
  case case1 s h =>
    have hc :=
      Pattern.find?_crlf Block.opening_carries.anywhere (Inline.anywhere Block.opening_inline) s
    rw [h] at hc
    rw [blocks_of_none h, blocks_of_none hc]
    rfl
  case case2 s id rest h parts hi =>
    have hc :=
      Pattern.find?_crlf Block.opening_carries.anywhere (Inline.anywhere Block.opening_inline) s
    rw [h] at hc
    obtain ⟨e, t, he, ht, hs⟩ := Block.split_crlf rest
    have hb : blocks t = blocks (crlf (Block.ending.anywhere.split rest).2) := by
      rw [ht]
      exact blocks_congr (Pattern.find?_of_misses (Block.opening_misses_blank he)).symm
    rw [blocks_of_some h, blocks_of_some hc, hs, filterMap_cons, filterMap_cons,
      Block.definition?_append_blank he, Block.definition?_crlf, hb, hi, List.map_append,
      Option.toList_map]

theorem states_crlf (text location : String) :
    states (crlfText text) location = (states text location).map StateDefinition.crlf := by
  rw [states, toList_crlfText, filterMap_blocks_crlf]
  rfl

end StateLint.StateArray
