import Mathlib.Data.List.Chain
import StateLint.Proofs.Checks.Graph
import StateLint.Proofs.StateArray.Lookup
import StateLint.Proofs.StateArray.Seam
import StateLint.Proofs.StateClass.Argument

namespace StateLint

open Text Reader

-- A transition as both layouts write it. The number may be too large for an id.
structure WrittenTransition where
  label     : String
  target    : List Char
  noQuote   : '"' ∉ label.toList
  noBracket : ']' ∉ label.toList
  decimal   : IsDecimal target

namespace WrittenTransition

variable {w : WrittenTransition} {ws : List WrittenTransition} {t : List Char}

def write (w : WrittenTransition) : List Char :=
  quoted '"' w.label.toList ++ (" => ".toList ++ w.target)

theorem write_ne_nil : w.write ≠ [] :=
  List.cons_ne_nil _ _

def pair? (w : WrittenTransition) : Option (String × UInt32) :=
  (number? w.target).map (w.label, ·)

def listing (ws : List WrittenTransition) : List Char :=
  separated (ws.map write)

def table (ws : List WrittenTransition) : Transitions :=
  .ofList (ws.filterMap pair?)

theorem not_mem_listing : ']' ∉ listing ws := by
  apply not_mem_separated
  case hc => decide
  case h =>
    intro i hi
    have ⟨w, _, hi⟩ := List.mem_map.mp hi
    subst hi
    simp only [write, List.mem_append, not_or]
    exact ⟨not_mem_quoted w.noBracket (by decide), by decide, w.decimal.not_mem rfl⟩

theorem write_append :
    w.write ++ t =
      '"' :: (w.label.toList ++ '"' :: (' ' :: '=' :: '>' :: ' ' :: (w.target ++ t))) := by
  simp [write, quoted]

def behind : List WrittenTransition → List Char
  | [] => []
  | ws => [',', ' '] ++ listing ws

theorem listing_cons : listing (w :: ws) = w.write ++ behind ws := by
  cases ws <;> simp [listing, behind]

theorem ends_behind : Ends (behind ws) := by
  cases ws <;> simp [behind, Ends]

-- No label right behind an empty one begins like what stands behind a label.
def Clear (ws : List WrittenTransition) : Prop :=
  ws.IsChain fun v w => v.label = "" → behindLabel w.label.toList = none

theorem clear_of_labelled (h : ∀ w ∈ ws, w.label ≠ "") : Clear ws := by
  induction ws
  case nil => exact .nil
  case cons w ws hi =>
    apply List.isChain_cons.mpr
    constructor
    case left => exact fun _ _ he => absurd he (h w List.mem_cons_self)
    case right => exact hi fun v hv => h v (List.mem_cons_of_mem w hv)

end WrittenTransition

open WrittenTransition

variable {ws : List WrittenTransition} {w : WrittenTransition} {t : List Char}

namespace StateArray

theorem transition_write (ht : Ends t) :
    transition (w.write ++ t) = some ((w.label, w.target), t) := by
  rw [write, transition_read w.noQuote w.decimal ht, String.ofList_toList]

theorem findAll_listing :
    transition.anywhere.findAll (listing ws) = ws.map fun w => (w.label, w.target) := by
  apply findAll_separated
  case hw => exact fun w _ => write_ne_nil
  case hr => exact fun w _ u hu => transition_write hu
  case hs => exact quoted_of_separator

def listingField (ws : List WrittenTransition) (after : List Char) : List Char :=
  "\"transitions\" => [".toList ++ (listing ws ++ ']' :: after)

theorem listField_listingField {after : List Char} :
    listField "transitions" (listingField ws after) = some (listing ws, after) :=
  listField_read (by decide) not_mem_listing

-- A block that declares a state and holds a list of transitions. No other field before it is taken
-- for it.
structure Block.Lists (b : Block) (ws : List WrittenTransition) : Prop where
  id    : (number? b.id).isSome
  name  : b.text "name" ≠ ""
  field : ∃ before after, b.body = before ++ listingField ws after ∧
    (listField "transitions").anywhere.Avoids (listingField ws after) none before

theorem Block.Lists.transitions_eq {b : Block} (h : b.Lists ws) : b.transitions = table ws := by
  have ⟨before, after, hb, ha⟩ := h.field
  rw [Block.transitions, list_of_avoids hb ha listField_listingField, findAll_listing,
    List.filterMap_map]
  rfl

theorem Block.Lists.definition?_eq {b : Block} (h : b.Lists ws) (location : String) :
    ∃ s, b.definition? location = some s ∧ s.transitions = b.transitions :=
  have ⟨s, hs, ht, _⟩ := exists_definition? h.id h.name location
  ⟨s, hs, ht⟩

end StateArray

namespace StateClass

theorem transition_of_ne {c : Char} (h : c ≠ '\'' ∧ c ≠ '"') (cs : List Char) :
    transition (c :: cs) = none := by
  have hq : quote (c :: cs) = none := by simp [quote, one, h]
  rw [transition, bind_eq, hq]
  rfl

theorem transition_write (hl : w.label ≠ "") (ht : Ends t) :
    transition (w.write ++ t) = some ((w.label, w.target), t) := by
  have hn : w.label.toList ≠ [] := by simpa using hl
  have hq : Quote.double.char ∉ w.label.toList := w.noQuote
  have hw : w.write = quoted Quote.double.char w.label.toList ++ (" => ".toList ++ w.target) := rfl
  rw [hw, transition_read hn hq w.decimal ht, String.ofList_toList]

theorem transition_unclosed {s : List Char} (h : '"' ∉ s) : transition ('"' :: s) = none := by
  have hq : quote ('"' :: s) = some ('"', s) := rfl
  have ht := List.takeWhile_eq_self_iff.mpr (bne_of_not_mem h)
  have hd := List.dropWhile_eq_nil_iff.mpr (bne_of_not_mem h)
  rw [transition_eq_behindLabel, bind_eq, hq, Option.bind_some, bind_eq, run1_eq, ht, hd]
  split <;> rfl

theorem transition_closed {s : List Char} (hn : s ≠ []) (hs : '"' ∉ s) (ht : behindLabel t = none) :
    transition ('"' :: (s ++ '"' :: t)) = none := by
  have hq : quote ('"' :: (s ++ '"' :: t)) = some ('"', s ++ '"' :: t) := rfl
  have hc : one (· == '"') ('"' :: t) = some ('"', t) := rfl
  rw [transition_eq_behindLabel]
  simp only [bind_eq, hq, run1_until hn hs, hc, ht, Option.bind_some, Option.bind_none]

-- An item without a label is not read. What stands from its second quotation mark to the next one
-- is no label, unless an arrow and a number follow there.
theorem misses_write (hl : w.label = "") (hc : ∀ v ∈ ws.head?, behindLabel v.label.toList = none) :
    transition.Misses w.write (behind ws) := by
  have hw : w.write = '"' :: '"' :: (" => ".toList ++ w.target) := by simp [write, quoted, hl]
  have hq {c : Char} (ha : c ∉ " => ".toList) (hd : c.isDigit = false) :
      c ∉ " => ".toList ++ w.target := by
    rw [List.mem_append, not_or]
    exact ⟨ha, w.decimal.not_mem hd⟩
  have single := hq (c := '\'') (by decide) rfl
  have double := hq (c := '"') (by decide) rfl
  rw [hw]
  refine ⟨rfl, ?_, misses_of_heads fun c hm => ?_⟩
  · cases ws
    case nil => exact transition_unclosed (by simpa [behind] using double)
    case cons v vs =>
      have hb : (" => ".toList ++ w.target) ++ behind (v :: vs) =
        (" => ".toList ++ w.target ++ [',', ' ']) ++ '"' ::
          (v.label.toList ++ '"' :: (' ' :: '=' :: '>' :: ' ' :: (v.target ++ behind vs))) := by
        simp [behind, listing_cons, write_append]
      rw [hb]
      apply transition_closed (by simp)
      · simpa using double
      · rw [behindLabel_ignores, hc v rfl]
        rfl
  · exact transition_of_ne ⟨ne_of_mem_of_not_mem hm single, ne_of_mem_of_not_mem hm double⟩

theorem findAll_behind :
    transition.anywhere.findAll (behind ws) = transition.anywhere.findAll (listing ws) := by
  cases ws
  case nil => rfl
  case cons v vs => exact Pattern.findAll_of_misses ⟨rfl, rfl, trivial⟩

theorem findAll_listing (h : Clear ws) :
    transition.anywhere.findAll (listing ws) = (ws.filter (·.label ≠ "")).map fun w =>
      (w.label, w.target) := by
  induction ws
  case nil => rfl
  case cons w ws hi =>
    have ⟨hc, h⟩ := List.isChain_cons.mp h
    rw [listing_cons]
    by_cases hl : w.label = ""
    case pos =>
      rw [Pattern.findAll_of_misses (misses_write hl fun v hv => hc v hv hl), findAll_behind, hi h]
      simp [hl]
    case neg =>
      rw [Pattern.findAll_of_reads write_ne_nil (transition_write hl ends_behind),
        findAll_behind, hi h]
      simp [hl]

def listingArgument (ws : List WrittenTransition) (after : List Char) : List Char :=
  "transitions: [".toList ++ (listing ws ++ ']' :: after)

theorem transitionsArgument_listingArgument {after : List Char} :
    transitionsArgument (listingArgument ws after) = some (listing ws, after) := by
  have he : listingArgument ws after =
      "transitions".toList ++ (": ".toList ++ ("[".toList ++ (listing ws ++ ']' :: after))) := rfl
  rw [he, transitionsArgument_eq, argument_read (by rintro _ ⟨⟩; rfl)]
  exact bind_eq_some.mpr ⟨_, _, literal_append _ _,
    bind_eq_some.mpr ⟨_, _, run_until not_mem_listing,
    bind_eq_some.mpr ⟨_, _, literal_append "]" _, rfl⟩⟩⟩

structure Lists (text : List Char) (ws : List WrittenTransition) : Prop where
  id       : (idArgument.atWordStart.find? text).any fun x => (number? x.1).isSome
  type     : (typeArgument.atWordStart.find? text).isSome
  head     : (head.anywhere.find? text).isSome
  argument : ∃ before after, text = before ++ listingArgument ws after ∧
    before.getLast?.any isWord = false ∧
    transitionsArgument.atWordStart.Avoids (listingArgument ws after) none before

theorem Lists.transitions_eq {text : List Char} (h : Lists text ws) (hc : Clear ws) :
    transitions text = table (ws.filter (·.label ≠ "")) := by
  have ⟨before, after, ht, hb, ha⟩ := h.argument
  have hr : transitionsArgument.atWordStart before.getLast? (listingArgument ws after) =
      some (listing ws, after) := by
    rw [atWordStart, hb]
    exact transitionsArgument_listingArgument
  rw [transitions, ht, Pattern.find?_of_avoids ha (List.cons_ne_nil _ _) hr]
  simp only [findAll_listing hc, List.filterMap_map]
  rfl

theorem Lists.state?_eq {text : String} (h : Lists text.toList ws) (location : String) :
    ∃ s, state? text location = some s ∧ s.transitions = transitions text.toList := by
  have hi := h.id
  have ⟨type, ht⟩ := Option.isSome_iff_exists.mp h.type
  have ⟨name, hh⟩ := Option.isSome_iff_exists.mp h.head
  cases hx : idArgument.atWordStart.find? text.toList
  case none => simp [hx] at hi
  case some x =>
    rw [hx, Option.any_some] at hi
    have ⟨id, hi⟩ := Option.isSome_iff_exists.mp hi
    simp only [state?, hx, hi, ht, hh, Option.bind_eq_bind, Option.bind_some]
    exact ⟨_, rfl, rfl⟩

theorem label_ne_empty {s : List Char} {e : String × List Char} (h : transition s = some (e, t)) :
    e.1 ≠ "" := by
  rw [transition_eq_behindLabel] at h
  have ⟨_, _, _, h⟩ := bind_eq_some.mp h
  have ⟨label, _, hl, h⟩ := bind_eq_some.mp h
  have ⟨_, _, _, h⟩ := bind_eq_some.mp h
  have ⟨_, _, _, h⟩ := bind_eq_some.mp h
  have ⟨he, _⟩ := pure_eq_some.mp h
  have ⟨hn, _, _⟩ := run1_eq_some.mp hl
  rw [← he]
  simpa using hn

theorem get?_transitions_empty (text : List Char) : (transitions text).get? "" = none := by
  unfold transitions
  split
  case h_2 => rfl
  case h_1 items rest _ =>
    rw [Transitions.get?_ofList, Option.map_eq_none_iff]
    apply List.find?_eq_none.mpr
    intro e he
    have ⟨read, hr, he⟩ := List.mem_filterMap.mp (List.mem_reverse.mp he)
    have ⟨_, _, _, _, ht⟩ := Pattern.mem_findAll hr
    have ⟨_, _, he⟩ := Option.map_eq_some_iff.mp he
    rw [← he]
    simpa using label_ne_empty ht

end StateClass

namespace WrittenTransition

theorem table_labelled (h : ∀ w ∈ ws, w.label ≠ "") :
    table (ws.filter (·.label ≠ "")) = table ws := by
  rw [List.filter_eq_self.mpr (by simpa using h)]

theorem get?_table_empty (h : ∃ w ∈ ws, w.label = "" ∧ (number? w.target).isSome) :
    (table ws).get? "" ≠ none := by
  have ⟨w, hw, hl, hn⟩ := h
  have ⟨n, hn⟩ := Option.isSome_iff_exists.mp hn
  rw [table, Transitions.get?_ofList, ne_eq, Option.map_eq_none_iff]
  intro hf
  have hm : ("", n) ∈ ws.filterMap pair? := List.mem_filterMap.mpr ⟨w, hw, by simp [pair?, hn, hl]⟩
  exact List.find?_eq_none.mp hf _ (List.mem_reverse.mpr hm) (by simp)

end WrittenTransition

-- A list of transitions is read from the state array item by item, and from a class likewise but
-- for the items without a label. So where all items have labels a state may move from the array to
-- a class, and the checks of the graph find the same; and where the target of an item without one
-- fits, it may not.
theorem transition_list_read {array text : String} {b : StateArray.Block}
    (location path : String) (hb : b ∈ StateArray.blocks array.toList) (ha : b.Lists ws)
    (hc : StateClass.Lists text.toList ws) :
    ∃ s t, s ∈ StateArray.states array location ∧ b.definition? location = some s ∧
      StateClass.state? text path = some t ∧ s.transitions = table ws ∧
      (Clear ws → t.transitions = table (ws.filter (·.label ≠ ""))) ∧
      ((∀ w ∈ ws, w.label ≠ "") → s.transitions = t.transitions ∧
        ∀ settings others states states', s.id = t.id → states.Perm (s :: others) →
          states'.Perm (t :: others) →
            Checks.brokenOf settings states s = Checks.brokenOf settings states' t ∧
            (Checks.Unreached settings states s ↔ Checks.Unreached settings states' t)) ∧
      ((∃ w ∈ ws, w.label = "" ∧ (number? w.target).isSome) → s.transitions ≠ t.transitions) := by
  have ⟨s, hs, hst⟩ := ha.definition?_eq location
  have ⟨t, ht, htt⟩ := hc.state?_eq path
  rw [ha.transitions_eq] at hst
  have same (h : ∀ w ∈ ws, w.label ≠ "") : s.transitions = t.transitions := by
    rw [hst, htt, hc.transitions_eq (clear_of_labelled h), table_labelled h]
  refine ⟨s, t, List.mem_filterMap.mpr ⟨b, hb, hs⟩, hs, ht, hst,
    fun h => htt.trans (hc.transitions_eq h), ?_, ?_⟩
  · intro h
    refine ⟨same h, ?_⟩
    intro settings others states states' hid hp hp'
    have hm : Checks.Moved s t states states' := ⟨hid, same h, others, hp, hp'⟩
    exact ⟨hm.brokenOf_eq, hm.unreached_iff⟩
  · intro h he
    apply get?_table_empty h
    rw [← hst, he, htt, StateClass.get?_transitions_empty]

def unlabelled : WrittenTransition where
  label := ""
  target := ['3']
  noQuote := by decide
  noBracket := by decide
  decimal := isDecimal_numeral 3

def unlabelledArray : String :=
  "2 => [\"name\" => \"a\", \"transitions\" => [\"\" => 3]]"

def unlabelledClass : String :=
  "class A extends GameState \x7b id: 2, type: StateType::GAME, transitions: [\"\" => 3] \x7d"

theorem unlabelled_lost :
    ∃ s ∈ StateArray.states unlabelledArray "states.inc.php", ∃ t,
      StateClass.state? unlabelledClass "A.php" = some t ∧ s.transitions ≠ t.transitions := by
  let b : StateArray.Block := ⟨['2'], "\"name\" => \"a\", \"transitions\" => [\"\" => 3]]".toList⟩
  have ho : StateArray.Block.opening.anywhere.find? unlabelledArray.toList =
    some (b.id, b.body) := by decide +kernel
  have he : (StateArray.Block.ending.anywhere.split b.body).1 = b.body := by decide +kernel
  have hb : b ∈ StateArray.blocks unlabelledArray.toList := by
    rw [StateArray.blocks_of_some ho, he]
    exact List.mem_cons_self
  have ha : b.Lists [unlabelled] :=
    { id := by decide
      name := by decide +kernel
      field := ⟨"\"name\" => \"a\", ".toList, [']'], by decide +kernel, by decide +kernel⟩ }
  have hc : StateClass.Lists unlabelledClass.toList [unlabelled] :=
    { id := by decide +kernel
      type := by decide +kernel
      head := by decide +kernel
      argument :=
        ⟨"class A extends GameState \x7b id: 2, type: StateType::GAME, ".toList,
        " \x7d".toList, by decide +kernel, by decide +kernel, by decide +kernel⟩ }
  have ⟨s, t, hs, _, ht, _, _, _, hd⟩ := transition_list_read "states.inc.php" "A.php" hb ha hc
  exact ⟨s, hs, t, ht, hd ⟨unlabelled, List.mem_singleton_self _, rfl, by decide⟩⟩

end StateLint
