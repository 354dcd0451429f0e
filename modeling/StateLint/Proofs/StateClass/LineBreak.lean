import StateLint.Proofs.MarkedMethod
import StateLint.Proofs.State.LineBreak

namespace StateLint

open Text Reader

namespace Text

-- No upper-case character beyond ASCII has a lower-case form among the first ten code points.
theorem caseShifts_above {shift : CaseShift} (h : shift ∈ caseShifts) :
    10 < shift.first + shift.offset := by
  have ha : ∀ shift ∈ caseShifts.toList, 10 < shift.first + shift.offset := by
    simp only [caseShifts, Array.toList_append, List.forall_mem_append]
    decide
  exact ha shift h.val

theorem ofNat_ne_lineFeed {n : Nat} (h : 10 < n) : Char.ofNat n ≠ '\n' := by
  by_cases hv : n.isValidChar
  case pos =>
    rw [Char.ofNat, dif_pos hv]
    intro hc
    have hn : n = '\n'.toNat := congrArg Char.toNat hc
    exact absurd hn (Nat.ne_of_gt h)
  case neg =>
    rw [Char.ofNat, dif_neg hv]
    decide

theorem not_mem_lowercase {c : Char} (h : c ≠ '\n') : '\n' ∉ lowercase c := by
  unfold lowercase
  split
  case isTrue => simpa using (toLower_ne_lineFeed h).symm
  split
  case isTrue => decide
  split
  case h_2 => simpa using h.symm
  case h_1 shift hs =>
    have hc := caseShifts_above (Array.mem_of_find?_eq_some hs)
    have hn := Array.find?_some hs
    simp only [CaseShift.covers, Bool.and_eq_true, decide_eq_true_eq] at hn
    have hl : 10 < ((c.toNat : Int) + shift.offset).toNat := by omega
    simpa [CaseShift.apply] using (ofNat_ne_lineFeed hl).symm

end Text

namespace StateClass

theorem idArgument_carries : Carries crlf idArgument idArgument :=
  .bind (.literal (by decide)) fun _ => .bind .blanks fun _ => .bind (.literal (by decide)) fun _ =>
    .bind .blanks fun _ => .digits

theorem typeArgument_carries : Carries crlfText typeArgument typeArgument :=
  .bind (.literal (by decide)) fun _ => .bind .blanks fun _ => .bind (.literal (by decide)) fun _ =>
    .bind .blanks fun _ =>
    .bind (.literal (by decide)) fun _ => .bind .name fun word => .pure (by
      rw [crlfText_ofList, crlf_append]
      rfl)

theorem head_carries : Carries crlfText head head :=
  .bind (.literal (by decide)) fun _ => .bind .blanks1 fun _ => .bind .name fun _ =>
    .bind .blanks1 fun _ =>
    .bind (.literal (by decide)) fun _ => .bind .blanks1 fun _ =>
      .bind (.literal (by decide)) fun _ => .bind .wordEnd fun _ =>
    .pure crlfText_ofList.symm

theorem transitionsArgument_carries : Carries crlf transitionsArgument transitionsArgument :=
  .bind (.literal (by decide)) fun _ => .bind .blanks fun _ => .bind (.literal (by decide)) fun _ =>
    .bind .blanks fun _ =>
    .bind (.literal (by decide)) fun _ => .bind (.run rfl) fun _ =>
      .bind (.literal (by decide)) fun _ => .pure rfl

theorem zombieMethod_carries : Carries id zombieMethod zombieMethod :=
  .bind (.literal (by decide)) fun _ => .bind .blanks1 fun _ =>
    .bind (.literal (by decide)) fun _ => .bind .blanks1 fun _ =>
    .bind (.literal (by decide)) fun _ => .bind .blanks fun _ => .literal (by decide)

theorem actionMethod_carries : Carries crlf actionMethod actionMethod :=
  .bind .blanks fun _ => .bind (.literal (by decide)) fun _ => .bind .blanks1 fun _ =>
    .bind (.literal (by decide)) fun _ =>
    .bind .blanks1 fun _ => .bind (.literal (by decide)) fun _ => .bind .name fun _ =>
      .bind .blanks fun _ =>
    .bind (.literal (by decide)) fun _ => .pure rfl

theorem actionMethod_lineFeed (s : List Char) :
    actionMethod ('\n' :: s) = actionMethod ('\r' :: '\n' :: s) :=
  rfl

theorem markedMethod_carries : Carries crlf markedMethod markedMethod :=
  .bind (.literal (by decide)) fun _ => .bind .blanks fun _ =>
    .orElse (.bind (.literal (by decide)) fun _ =>
      actionMethod_carries.skipFarthest actionMethod_lineFeed) actionMethod_carries

theorem actionMethod_leavesEnd : actionMethod.LeavesEnd :=
  blanks_leavesEnd.bind fun _ => (literal_leavesEnd _).bind fun _ => blanks1_leavesEnd.bind fun _ =>
    (literal_leavesEnd _).bind fun _ => blanks1_leavesEnd.bind fun _ =>
      (literal_leavesEnd _).bind fun _ =>
    (run1_leavesEnd _).bind fun _ => blanks_leavesEnd.bind fun _ =>
      (literal_leavesEnd _).bind fun _ => .pure _

theorem markedMethod_consumes : markedMethod.Consumes :=
  (Consumes.literal (by decide)).bind fun _ => blanks_leavesEnd.bind fun _ =>
    .orElse ((literal_leavesEnd _).bind fun _ => skipFarthest_leavesEnd actionMethod_leavesEnd _)
      actionMethod_leavesEnd

theorem transition_carries : Carries (fun e => (crlfText e.1, crlf e.2)) transition transition := by
  refine .quote_bind fun q hq => ?_
  have hr : ('\r' == q) = false ∧ ('\n' == q) = false := by rcases hq with rfl | rfl <;> decide
  have hm : ('\r' != q) = ('\n' != q) := by simp [bne, hr]
  exact .bind (.run1 hm) fun _ => .bind (.one hr.left hr.right) fun _ => .bind .blanks fun _ =>
    .bind (.literal (by decide)) fun _ => .bind .blanks fun _ => .bind .digits fun _ =>
      .pure (by rw [crlfText_ofList])

theorem transition_consumes : transition.Consumes :=
  (Consumes.one _).bind fun _ => (run1_leavesEnd _).bind fun _ =>
    (Consumes.one _).left.bind fun _ => blanks_leavesEnd.bind fun _ =>
    (literal_leavesEnd _).bind fun _ => blanks_leavesEnd.bind fun _ =>
      (run1_leavesEnd _).bind fun _ => .pure _

theorem transitions_crlf (text : List Char) :
    transitions (crlf text) = (transitions text).relabel crlfText := by
  have ha := Pattern.find?_crlf transitionsArgument_carries.atWordStart
    (Inline.atWordStart (.literal_bind (by decide) (by decide))) text
  have ht := Pattern.findAll_crlf transition_carries (.bind (.one (by decide))) transition_consumes
  simp only [transitions, ha]
  cases transitionsArgument.atWordStart.find? text
  case none => rfl
  case some x =>
    simp only [Option.map_some, ht, Transitions.ofList_entries_crlf]

theorem not_mem_lowerFirst {n : List Char} (h : '\n' ∉ n) : '\n' ∉ lowerFirst n := by
  cases n
  case nil => exact h
  case cons c cs =>
    have ⟨hc, hs⟩ := not_or.mp (mt List.mem_cons.mpr h)
    simp [lowerFirst, not_mem_lowercase (Ne.symm hc), hs]

theorem not_mem_markedMethod {text : String} {n : List Char}
    (h : n ∈ markedMethod.anywhere.findAll text.toList) :
    '\n' ∉ n := by
  intro hn
  have hw := (markedMethod_name h).right '\n' hn
  rw [isWord_ascii (by decide)] at hw
  cases hw

theorem actions_crlf (text : String) : actions (crlf text.toList) = actions text.toList := by
  have hm :=
    Pattern.findAll_crlf markedMethod_carries (.literal_bind (by decide) (by decide))
    markedMethod_consumes
  have hn : (markedMethod.anywhere.findAll text.toList).map crlf =
      markedMethod.anywhere.findAll text.toList :=
    (List.map_congr_left fun n h => crlf_of_not_mem (not_mem_markedMethod h)).trans (List.map_id _)
  rw [actions, hm, hn]
  rfl

theorem map_actions (text : String) : (actions text.toList).map crlfText = actions text.toList := by
  refine (List.map_congr_left fun t ht => ?_).trans (List.map_id _)
  have ⟨n, hn, hl⟩ := List.mem_map.mp (List.mem_eraseDups.mp ht)
  rw [← hl, crlfText_ofList, crlf_of_not_mem (not_mem_lowerFirst (not_mem_markedMethod hn)), id]

theorem state?_crlf (text location : String) :
    state? (crlfText text) location = (state? text location).map StateDefinition.crlf := by
  have hi := Pattern.find?_crlf idArgument_carries.atWordStart
    (Inline.atWordStart (.literal_bind (by decide) (by decide))) text.toList
  have ht := Pattern.find?_crlf typeArgument_carries.atWordStart
    (Inline.atWordStart (.literal_bind (by decide) (by decide))) text.toList
  have hh :=
    Pattern.find?_crlf head_carries.anywhere
    (Inline.anywhere (.literal_bind (by decide) (by decide))) text.toList
  have hz := Pattern.occursIn_crlf zombieMethod_carries.anywhere
    (Inline.anywhere (.literal_bind (by decide) (by decide))) text.toList
  simp only [state?, toList_crlfText, hi, ht, hh, hz, transitions_crlf, actions_crlf]
  cases idArgument.atWordStart.find? text.toList
  case none => rfl
  case some x =>
    cases typeArgument.atWordStart.find? text.toList
    case none => simp
    case some y =>
      cases head.anywhere.find? text.toList
      case none => simp
      case some z =>
        cases hn : number? x.1 <;>
          simp [number?_crlf, hn, StateKind.ofType_crlf, StateDefinition.crlf, map_actions]

end StateClass
end StateLint
