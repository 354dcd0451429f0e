import StateLint.Proofs.FirstOccurrence
import StateLint.Proofs.NormalForm
import StateLint.Proofs.Text.LineBreak
import StateLint.Proofs.Transitions
import StateLint.State.Definition

namespace StateLint

open Text Reader

namespace Text

variable {s : List Char} {c : Char}

theorem mem_crlf : '\n' ∈ crlf s ↔ '\n' ∈ s := by
  induction s
  case nil => rfl
  case cons c cs hi =>
    by_cases hc : c = '\n'
    case pos => simp [hc, crlf_lineFeed]
    case neg => simp [crlf_cons_of_ne hc, hi]

theorem crlf_eq_iff {w : List Char} (hw : '\n' ∉ w) : crlf s = w ↔ s = w := by
  conv_lhs => rw [← crlf_of_not_mem hw, crlf_inj]

theorem isEmpty_crlfText (t : String) : (crlfText t).isEmpty = t.isEmpty := by
  rw [Bool.eq_iff_iff, String.isEmpty_iff, String.isEmpty_iff, ← @crlfText_inj t ""]
  rfl

theorem number?_crlf (s : List Char) : number? (crlf s) = number? s := by
  by_cases h : '\n' ∈ s
  case pos =>
    have hs : s.all Char.isDigit = false := List.all_eq_false.mpr ⟨'\n', h, by decide⟩
    have hc : (crlf s).all Char.isDigit = false :=
      List.all_eq_false.mpr ⟨'\n', mem_crlf.mpr h, by decide⟩
    simp [number?, hs, hc]
  case neg => rw [crlf_of_not_mem h]

theorem toLower_ne_lineFeed (h : c ≠ '\n') : c.toLower ≠ '\n' := by
  by_cases hu : c.isUpper
  case pos =>
    intro hl
    have hc := Action.toUpper_toLower hu
    rw [hl] at hc
    exact h hc.symm
  case neg =>
    have hl : c.toLower = c := dif_neg fun hc => hu (decide_eq_true hc)
    rwa [hl]

theorem asciiLower_crlf (s : List Char) : asciiLower (crlf s) = crlf (asciiLower s) := by
  induction s
  case nil => rfl
  case cons c cs hi =>
    by_cases hc : c = '\n'
    case pos => simpa [hc, asciiLower, crlf_lineFeed] using hi
    case neg =>
      simpa [asciiLower, crlf_cons_of_ne hc, crlf_cons_of_ne (toLower_ne_lineFeed hc)] using hi

theorem mentions_crlf {w : String} (h : Unbroken w) (hn : w ≠ "") (s : List Char) :
    mentions w (crlf s) = mentions w s :=
  Pattern.occursIn_crlf (Carries.literal h).anywhere (Inline.literal h hn).anywhere s

end Text

theorem StateKind.ofType_crlf (type : String) : ofType (crlfText type) = ofType type := by
  have hw : '\n' ∉ "multipleactiveplayer".toList ∧ '\n' ∉ "activeplayer".toList := by decide
  simp only [ofType, toList_crlfText, asciiLower_crlf, crlf_eq_iff hw.left, crlf_eq_iff hw.right,
    mentions_crlf (w := "multiple_active") (by decide) (by decide),
    mentions_crlf (w := "active_player") (by decide) (by decide),
    mentions_crlf (w := "private") (by decide) (by decide)]

theorem Transitions.ofList_entries_crlf (es : List (String × List Char)) :
    ofList ((es.map fun e => (crlfText e.1, crlf e.2)).filterMap fun e =>
        (number? e.2).map (e.1, ·)) =
      (ofList (es.filterMap fun e => (number? e.2).map (e.1, ·))).relabel crlfText := by
  rw [← ofList_map crlfText_injective, List.filterMap_map, List.map_filterMap]
  congr 2
  funext e
  simp [number?_crlf, Function.comp_def]

namespace Action

theorem prefixed_iff {name : List Char} :
    Prefixed name ↔ ∃ t, literal "act" name = some ((), t) ∧ t.head?.any Char.isUpper := by
  simp only [literal_eq_some]
  constructor
  case mp =>
    rintro ⟨c, cs, rfl, hc⟩
    exact ⟨c :: cs, rfl, hc⟩
  case mpr =>
    rintro ⟨t, rfl, ht⟩
    cases t
    case nil => cases ht
    case cons c cs => exact ⟨c, cs, rfl, ht⟩

theorem prefixed_crlf {name : List Char} : Prefixed (crlf name) ↔ Prefixed name := by
  simp only [prefixed_iff, Carries.literal (l := "act") (by decide) name]
  cases literal "act" name
  case none => simp
  case some x =>
    obtain ⟨_, t⟩ := x
    simp [head?_crlf (p := Char.isUpper) (by decide)]

theorem normalize_crlf (name : List Char) : normalize (crlf name) = crlf (normalize name) := by
  induction name using normalize.induct
  case case1 c cs hc hi =>
    have hn : c ≠ '\n' := by
      rintro rfl
      cases hc
    rw [crlf_cons_of_ne (toLower_ne_lineFeed hn)] at hi
    have ha : crlf ('a' :: 'c' :: 't' :: c :: cs) = 'a' :: 'c' :: 't' :: c :: crlf cs := by
      simp [crlf, hn]
    rw [ha, normalize_act hc, hi, normalize_act hc]
  case case2 c cs hc =>
    have hp : ¬Prefixed ('a' :: 'c' :: 't' :: c :: cs) := by simpa [prefixed_act] using hc
    rw [normalize_of_not_prefixed hp, normalize_of_not_prefixed (mt prefixed_crlf.mp hp)]
  case case3 name h =>
    have hp : ¬Prefixed name := by
      rintro ⟨c, cs, hn, -⟩
      exact h c cs hn
    rw [normalize_of_not_prefixed hp, normalize_of_not_prefixed (mt prefixed_crlf.mp hp)]

theorem normalName_crlf (name : String) :
    normalName (crlfText name) = crlfText (normalName name) := by
  rw [normalName, toList_crlfText, normalize_crlf, ← crlfText_ofList]
  rfl

end Action

def StateDefinition.crlf (d : StateDefinition) : StateDefinition :=
  { d with
    name := crlfText d.name
    transitions := d.transitions.relabel crlfText
    actions := d.actions.map crlfText
    className := d.className.map crlfText
    description := d.description.map crlfText
    descriptionMyTurn := d.descriptionMyTurn.map crlfText
    callback := d.callback.map crlfText }

def StateDefinition.texts (d : StateDefinition) : List String :=
  d.name :: d.transitions.toList.map (·.1) ++ d.actions ++ d.className.toList ++
    d.description.toList ++ d.descriptionMyTurn.toList ++ d.callback.toList

namespace StateDefinition

theorem mem_texts {d : StateDefinition} {t : String} :
    t ∈ d.texts ↔ t = d.name ∨ (∃ e ∈ d.transitions.toList, e.1 = t) ∨ t ∈ d.actions ∨
      d.className = some t ∨ d.description = some t ∨ d.descriptionMyTurn = some t ∨
      d.callback = some t := by
  simp [texts]

theorem crlf_of_texts {d : StateDefinition} (h : ∀ t ∈ d.texts, '\n' ∉ t.toList) : d.crlf = d := by
  have hf : ∀ t ∈ d.texts, crlfText t = t := fun t ht => crlfText_of_not_mem (h t ht)
  simp only [mem_texts, or_imp, forall_and] at hf
  have ⟨hn, ht, ha, hc, hd, hm, hb⟩ := hf
  have ho (o : Option String) (hs : ∀ t, o = some t → crlfText t = t) : o.map crlfText = o := by
    cases o
    case none => rfl
    case some t => exact congrArg some (hs t rfl)
  have ht : d.transitions.relabel crlfText = d.transitions :=
    Transitions.relabel_of_fixed fun e he => ht _ ⟨e, he, rfl⟩
  have ha : d.actions.map crlfText = d.actions := (List.map_congr_left ha).trans (List.map_id _)
  rw [crlf, hn d.name rfl, ht, ha, ho _ hc, ho _ hd, ho _ hm, ho _ hb]

end StateDefinition
end StateLint
