import StateLint.Proofs.Checks.CrossReference
import StateLint.Proofs.ServerScript.Function

namespace StateLint

open Text

namespace Action

theorem isWord_toLower {c : Char} (h : c.isUpper) : isWord c.toLower :=
  of_isUpper (P := fun c => isWord c.toLower) (by decide) h

theorem isWord_toUpper {c : Char} (h : isWord c) : isWord c.toUpper := by
  by_cases hl : c.isLower
  case pos => exact of_isLower (P := fun c => isWord c.toUpper) (by decide) hl
  case neg => rwa [toUpper_of_not_isLower hl]

theorem isWord_normalize {name : List Char} (h : ∀ c ∈ name, isWord c) :
    ∀ c ∈ normalize name, isWord c := by
  induction name using normalize.induct
  case case1 c cs hc hi =>
    rw [normalize_act hc]
    refine hi fun d hd => ?_
    cases List.mem_cons.mp hd
    case inl hd => exact hd ▸ isWord_toLower hc
    case inr hd => exact h d (by simp [hd])
  case case2 c cs hc => rwa [normalize, if_neg hc]
  case case3 name hn =>
    have hp : ¬Prefixed name := by
      rintro ⟨c, cs, he, _⟩
      exact hn c cs he
    rwa [normalize_of_not_prefixed hp]

theorem isName_methodName {name : List Char} (h : ∀ c ∈ name, isWord c) :
    IsName (methodName name) := by
  have ha : IsName ['a', 'c', 't'] := by decide
  have hn := isWord_normalize h
  unfold methodName
  split
  case h_1 => exact ha
  case h_2 c cs he =>
    rw [he] at hn
    refine ⟨List.cons_ne_nil _ _, fun d hd => ?_⟩
    have hd : d ∈ ['a', 'c', 't'] ∨ d ∈ c.toUpper :: cs := List.mem_append.mp hd
    cases hd
    case inl hd => exact ha.word d hd
    case inr hd =>
      cases List.mem_cons.mp hd
      case inl hd => exact hd ▸ isWord_toUpper (hn c List.mem_cons_self)
      case inr hd => exact hn d (List.mem_cons_of_mem c hd)

end Action

namespace Checks

open ServerScript

variable {settings : Settings} {sources : Sources} {states : List StateDefinition}
  {client main : SourceFile} {name : String}

theorem normalName_method_ne (h : ∃ c ∈ name.toList.head?, c.isLower) :
    Action.normalName (Action.method name) ≠ Action.method name := by
  intro he
  have he : Action.normalize (Action.methodName name.toList) = Action.methodName name.toList := by
    simpa only [Action.normalName, Action.method, String.toList_ofList, String.ofList_inj] using he
  exact Action.normalize_eq_self_iff.mp he (Action.prefixed_methodName h)

theorem handled_of_declares (hm : sources.mainScript = some main) (hw : ∀ c ∈ name.toList, isWord c)
    (hd : Declares main.text (Action.method name)) (hl : ∃ c ∈ name.toList.head?, c.isLower) :
    Handled sources states (Action.normalName name) := by
  have hn : IsName (Action.method name).toList := by
    rw [Action.method, String.toList_ofList]
    exact Action.isName_methodName hw
  obtain ⟨f, hf, hfn⟩ := exists_function hn hd
  have hne : f.normalName ≠ f.name := by
    rw [PlayerAction.normalName, hfn]
    exact normalName_method_ne hl
  obtain ⟨a, ha, han⟩ := exists_playerAction hf hne
  refine .inr ⟨main, hm, a, ha, ?_⟩
  rw [PlayerAction.normalName, han, hfn, (Action.normalName_method_iff name).mpr hl]

-- The method that the finding about an unknown action asks for has the action's normal form exactly
-- if the action starts with a small letter. Once the main script has the method the finding is gone
-- for those actions. For any other it stays, and says that there is no such method, unless the
-- action is known by other means.
theorem requested_method_known_iff (settings : Settings) (states : List StateDefinition)
    (name : String) :
    (Action.normalName (Action.method name) = Action.normalName name ↔
      ∃ c ∈ name.toList.head?, c.isLower) ∧
      ∀ {sources : Sources} {client main : SourceFile}, sources.clientScript = some client →
        sources.mainScript = some main → name ∈ ClientScript.calledActions client.text →
          Declares main.text (Action.method name) →
            (unknownAction client name ∈ battery settings sources states ↔
              (¬∃ c ∈ name.toList.head?, c.isLower) ∧
                ¬Handled sources states (Action.normalName name)) := by
  refine ⟨Action.normalName_method_iff name, fun {sources client main} hc hm hn hd => ?_⟩
  have hh : (∃ c ∈ name.toList.head?, c.isLower) →
      Handled sources states (Action.normalName name) :=
    handled_of_declares hm (ClientScript.isWord_of_called hn) hd
  rw [unknownAction_mem_iff hc hn]
  exact ⟨fun h => ⟨mt hh h, h⟩, And.right⟩

-- A client that calls an action by a name with a capital, a main script that has the method that is
-- asked for, and the game of the two.

def capitalCall : SourceFile :=
  ⟨"a.js", "bgaPerformAction('PlayCard')"⟩

def capitalMethod : SourceFile :=
  ⟨"Game.php", "function actPlayCard() \x7b\x7d"⟩

def capitalGame : Sources :=
  { Sources.empty with clientScript := some capitalCall, mainScript := some capitalMethod }

theorem method_playCard : Action.method "PlayCard" = "actPlayCard" := by
  have hp : ¬Action.Prefixed "PlayCard".toList := by
    intro ⟨c, cs, h, _⟩
    exact absurd (List.cons.inj h).left (by decide)
  rw [Action.method, Action.methodName, Action.normalize_of_not_prefixed hp]
  rfl

theorem capitalMethod_declares : Declares capitalMethod.text "actPlayCard" := by
  refine ⟨[], [], rfl, fun s hs ho => ?_⟩
  obtain ⟨_, _, _, _, _, _, _, _, he⟩ := ho
  rw [List.suffix_nil.mp hs] at he
  contradiction

theorem capitalMethod_not_handled : ¬Handled capitalGame [] (Action.normalName "PlayCard") := by
  have hf : (functions capitalMethod.text).map (·.name) = ["actPlayCard"] := by decide
  rintro (⟨s, hs, _⟩ | ⟨main, hm, a, ha, hn⟩)
  · contradiction
  · obtain rfl : capitalMethod = main := Option.some.inj hm
    have hm := List.mem_map_of_mem (f := (·.name)) (mem_functions_of_playerAction ha)
    rw [hf, List.mem_singleton] at hm
    have hl : ∃ c ∈ (Action.normalName "PlayCard").toList.head?, c.isLower := by
      rw [← hn, PlayerAction.normalName, hm, Action.toList_normalName, Action.head_normalize]
      exact ⟨'a', rfl, by decide⟩
    rw [Action.toList_normalName, Action.head_normalize] at hl
    obtain ⟨c, hc, hl⟩ := hl
    cases hc
    contradiction

theorem capitalGame_unknown :
    capitalGame.clientScript = some capitalCall ∧ capitalGame.mainScript = some capitalMethod ∧
      "PlayCard" ∈ ClientScript.calledActions capitalCall.text ∧
        Declares capitalMethod.text (Action.method "PlayCard") ∧
          Action.normalName (Action.method "PlayCard") ≠ Action.normalName "PlayCard" ∧
            unknownAction capitalCall "PlayCard" ∈ battery .default capitalGame [] := by
  have hl : ¬∃ c ∈ "PlayCard".toList.head?, c.isLower := by
    intro ⟨c, hc, hl⟩
    cases hc
    contradiction
  have hc : capitalGame.clientScript = some capitalCall := rfl
  have hm : capitalGame.mainScript = some capitalMethod := rfl
  have hn : "PlayCard" ∈ ClientScript.calledActions capitalCall.text := by decide
  have hd : Declares capitalMethod.text (Action.method "PlayCard") :=
    method_playCard ▸ capitalMethod_declares
  have ⟨hi, hk⟩ := requested_method_known_iff .default [] "PlayCard"
  exact ⟨hc, hm, hn, hd, mt hi.mp hl, (hk hc hm hn hd).mpr ⟨hl, capitalMethod_not_handled⟩⟩

end Checks
end StateLint
