import StateLint.Proofs.StateArray.Lookup
import StateLint.Proofs.StateArray.Seam
import StateLint.Proofs.Transitions

namespace StateLint.StateArray

open Text Reader

variable {α : Type} {r : Reader α} {s t : List Char}

namespace Style

variable {style : Style} {e : Entry}

theorem writable_fields (he : e.Writable) : ∀ f ∈ style.fields e, f.Writable :=
  fun f hf => he.fields f (style.subset e hf)

theorem find?_body_of_mem {f : Field} {a : α} (hr : NoNumeral r) (he : e.Writable)
    (hf : f ∈ style.fields e) (ha : ∀ t, r (' ' :: (f.content ++ t)) = some (a, t)) :
    ((keyed f.key r).anywhere.find? (style.body e)).map (·.1) = some a :=
  find?_lines hr style.inner_blank (writable_fields he) hf
    (fun _ hg hk => e.eq_of_key (style.subset e hf) (style.subset e hg) hk) ha

theorem find?_body_of_not_mem {f : Field} (hr : NoNumeral r) (he : e.Writable) (hf : f ∈ e.fields)
    (hn : f ∉ style.fields e) : (keyed f.key r).anywhere.find? (style.body e) = none := by
  have hk := (he.fields f hf).key
  have hu : ∀ g ∈ style.fields e, g.key ≠ f.key :=
    fun g hg h => hn (e.eq_of_key hf (style.subset e hg) h ▸ hg)
  have hb : (keyed f.key r).Misses (('\n' :: style.outer) ++ [']', ',']) [] := by
    refine misses_append.mpr ⟨(blank_line style.outer_blank).misses_keyed, ?_⟩
    exact ⟨keyed_of_ne (by decide) _, keyed_of_ne (by decide) _, trivial⟩
  rw [body, Pattern.find?_of_misses (misses_lines hk hr style.inner_blank (writable_fields he) hu)]
  exact Pattern.find?_eq_none_of_misses hb

theorem text_body {name value : String} (he : e.Writable) (hf : .text name value ∈ e.fields)
    (id : List Char) :
    Block.text ⟨id, style.body e⟩ name = value := by
  rw [Block.text, textField_eq]
  have hw := he.fields _ hf
  by_cases hm : .text name value ∈ style.fields e
  case pos =>
    cases hw
    case text hv =>
      have h :=
        find?_body_of_mem textContent_noNumeral he hm fun t => textContent_eq (t := t) hv.quote
      obtain ⟨x, hx, hv⟩ := Option.map_eq_some_iff.mp h
      simp only [Field.key] at hx
      simp [hx, hv]
  case neg =>
    have h := find?_body_of_not_mem textContent_noNumeral he hf hm
    simp only [Field.key] at h
    rw [h]
    exact ((style.complete e _ hf).resolve_left hm).symm

theorem list_body {f : Field} {items : List (List Char)} (he : e.Writable) (hf : f ∈ e.fields)
    (hc : f.content = '[' :: (separated items ++ [']'])) (hi : ']' ∉ separated items)
    (hn : f.Empty → items = []) (id : List Char) :
    Block.list ⟨id, style.body e⟩ f.key = separated items := by
  rw [Block.list, listField_eq]
  by_cases hm : f ∈ style.fields e
  case pos =>
    have ha (t) : listContent (' ' :: (f.content ++ t)) = some (separated items, t) := by
      simpa [hc] using listContent_eq (t := t) hi
    obtain ⟨x, hx, hv⟩ :=
      Option.map_eq_some_iff.mp (find?_body_of_mem listContent_noNumeral he hm ha)
    simp [hx, hv]
  case neg =>
    rw [find?_body_of_not_mem listContent_noNumeral he hf hm,
      hn ((style.complete e f hf).resolve_left hm)]
    rfl

theorem actions_body (he : e.Writable) (id : List Char) :
    Block.actions ⟨id, style.body e⟩ = (e.possibleActions.map Action.normalName).eraseDups := by
  have hn : ']' ∉ separated (e.possibleActions.map Field.writeName) :=
    Field.not_mem_names (fun a ha => (he.possibleActions a ha).right.bracket) (by decide)
  have hf : .actions e.possibleActions ∈ e.fields := by simp [Entry.fields]
  have hl := style.list_body he hf rfl hn (fun h => congrArg (List.map _) h) id
  rw [Field.key] at hl
  rw [Block.actions, hl, findAll_item he.possibleActions]

theorem transitions_body (he : e.Writable) (id : List Char) :
    Block.transitions ⟨id, style.body e⟩ = .ofList e.transitions := by
  have hn : ']' ∉ separated (e.transitions.map Field.writeEntry) :=
    Field.not_mem_entries (fun t ht => (he.transitions t ht).bracket) (by decide) rfl
  have hf : .transitions e.transitions ∈ e.fields := by simp [Entry.fields]
  have hl := style.list_body he hf rfl hn (fun h => congrArg (List.map _) h) id
  rw [Field.key] at hl
  simp [Block.transitions, hl, findAll_transition he.transitions, List.filterMap_map,
    number?_numeral]

theorem definition?_body (he : e.Writable) (location : String) :
    Block.definition? location ⟨numeral e.id, style.body e⟩ = some (e.definition location) := by
  have text (key value) (hf : .text key value ∈ e.fields) :
      Block.text ⟨numeral e.id, style.body e⟩ key = value :=
    text_body he hf _
  have name := text "name" e.name (by simp [Entry.fields])
  have type := text "type" e.type (by simp [Entry.fields])
  have description := text "description" e.description (by simp [Entry.fields])
  have turn := text "descriptionmyturn" e.descriptionMyTurn (by simp [Entry.fields])
  have action := text "action" e.action (by simp [Entry.fields])
  simp only [Block.definition?, number?_numeral, Block.text?, name, type, description, turn, action,
    actions_body he, transitions_body he]
  simp [he.named, Entry.definition, Entry.nonempty?]

theorem misses_ending_blank (hs : Blank s) (hb : ∀ c ∈ t.head?, isBlank c = false)
    (hd : ∀ c ∈ t.head?, isDigit c = false) (hl : literal "];" t = none) :
    Block.ending.Misses s t := by
  induction s
  case nil => trivial
  case cons c cs hi =>
    have ⟨_, hcs⟩ := List.forall_mem_cons.mp hs
    refine ⟨?_, hi hcs⟩
    by_cases hc : c = '\n'
    case neg => exact Block.ending_of_ne hc _
    case pos =>
      have key : Block.endingDigits t = none := by
        cases t
        case nil => rfl
        case cons d ds => simp [Block.endingDigits, bind_eq, digits, run1, hd d rfl]
      have close : literal "];" (cs ++ t) = none := by
        cases cs
        case nil => exact hl
        case cons d ds =>
          refine literal_cons rfl ?_
          rintro rfl
          exact Blank.not_mem hcs rfl List.mem_cons_self
      rw [hc, Block.ending_lineBreak, dropWhile_stop hcs hb, key, close]
      rfl

theorem misses_ending_lines {inner : List Char} {fields : List Field} (hb : Blank inner)
    (hw : ∀ f ∈ fields, f.Writable) : Block.ending.Misses (lines inner fields) t := by
  induction fields
  case nil => trivial
  case cons f fs hi =>
    have ⟨first, rest⟩ := List.forall_mem_cons.mp hw
    rw [lines_cons, misses_append, misses_append]
    refine ⟨misses_ending_blank (blank_line hb) ?_ ?_ ?_, ?_, hi rest⟩
    · simp [Field.write, quoted, isBlank]
    · simp [Field.write, quoted, isDigit]
    · exact literal_cons rfl (by decide)
    · exact misses_of_heads fun c hc => Block.ending_of_ne (ne_of_mem_of_not_mem hc first.lineBreak)

theorem misses_ending_body (he : e.Writable) : Block.ending.Misses (style.body e) t := by
  have hb : Blank ('\n' :: style.outer) := blank_line style.outer_blank
  refine misses_append.mpr ⟨misses_ending_lines style.inner_blank (writable_fields he),
    misses_append.mpr ⟨?_, ?_⟩⟩
  · exact misses_ending_blank hb (by simp [isBlank]) (by simp [isDigit]) rfl
  · exact misses_of_heads fun c hc => Block.ending_of_ne (by rintro rfl; simp at hc)

theorem opening_eq (n : UInt32) (t : List Char) :
    Block.opening (numeral n ++ (" => [".toList ++ t)) = some (numeral n, t) :=
  bind_eq_some.mpr ⟨_, _, digits_numeral (by simp [isDigit]),
    bind_eq_some.mpr ⟨_, _, blanks_cons rfl, bind_eq_some.mpr ⟨_, _, literal_append "=>" _,
      bind_eq_some.mpr ⟨_, _, blanks_cons rfl,
        bind_eq_some.mpr ⟨_, _, literal_append "[" _, rfl⟩⟩⟩⟩⟩

theorem blocks_block (he : e.Writable) (ht : (Block.ending t).isSome) :
    blocks (style.block e ++ t) = ⟨numeral e.id, style.body e⟩ :: blocks t := by
  have ⟨x, hx⟩ := Option.isSome_iff_exists.mp ht
  have hb : ∀ c ∈ '\n' :: style.outer, isDigit c = false :=
    fun c hc => not_isDigit_of_isBlank (blank_line style.outer_blank c hc)
  have opening : Block.opening.anywhere.find? (style.block e ++ t) =
      some (numeral e.id, style.body e ++ t) := by
    simp only [block, List.append_assoc]
    rw [Pattern.find?_of_misses (Block.opening_misses hb)]
    exact Pattern.find?_of_reads (by simp) (opening_eq e.id _)
  have ending : Block.ending.anywhere.split (style.body e ++ t) = (style.body e, t) := by
    rw [Pattern.split_of_misses (misses_ending_body he), Pattern.split_of_reads hx, List.append_nil]
  rw [blocks_of_some opening, ending]

theorem ending_block (e : Entry) (t : List Char) : (Block.ending (style.block e ++ t)).isSome := by
  have hw : style.block e ++ t =
      '\n' :: (style.outer ++
        (numeral e.id ++ ([' '] ++ '=' :: '>' :: (" [".toList ++ (style.body e ++ t))))) := by
    simp [block]
  rw [hw]
  exact Block.ending_of_key style.outer_blank (numeral_ne_nil e.id) (isDigit_numeral e.id)
    (by simp [Blank, isBlank])

theorem ending_blocks (es : List Entry) :
    (Block.ending (es.flatMap style.block ++ style.close)).isSome := by
  cases es
  case nil =>
    have hl : literal "];" (']' :: ';' :: style.trailing) = some ((), style.trailing) :=
      literal_append "];" _
    simp [close, Block.ending_lineBreak, hl]
  case cons e es =>
    rw [List.flatMap_cons, List.append_assoc]
    exact ending_block e _

theorem blocks_close : blocks style.close = [] := by
  have hb : ∀ c ∈ style.close, isDigit c = false := by
    refine List.forall_mem_append.mpr ⟨by simp [isDigit], fun c hc => ?_⟩
    exact not_isDigit_of_isBlank (style.trailing_blank c hc)
  exact blocks_of_none (Pattern.find?_eq_none_of_misses (Block.opening_misses hb))

theorem blocks_flatMap {es : List Entry} (he : ∀ e ∈ es, e.Writable) :
    blocks (es.flatMap style.block ++ style.close) = es.map fun e =>
      ⟨numeral e.id, style.body e⟩ := by
  induction es
  case nil => exact blocks_close
  case cons e es hi =>
    have ⟨first, rest⟩ := List.forall_mem_cons.mp he
    rw [List.flatMap_cons, List.append_assoc, blocks_block first (ending_blocks es), hi rest,
      List.map_cons]

theorem blocks_text {es : List Entry} (he : ∀ e ∈ es, e.Writable) :
    blocks (style.text es) = es.map fun e => ⟨numeral e.id, style.body e⟩ := by
  have hm : Block.opening.Misses "$machinestates = [".toList
      (es.flatMap style.block ++ style.close) :=
    Block.opening_misses (by simp [isDigit])
  rw [← blocks_flatMap he]
  exact blocks_congr (Pattern.find?_of_misses hm)

-- A state array is read back as the states of its entries, in their order, in whatever style it is
-- written; and the map of a state's transitions holds the transitions of its entry.
theorem states_text {es : List Entry} (he : ∀ e ∈ es, e.Writable) (location : String) :
    states (.ofList (style.text es)) location = es.map (·.definition location) ∧
      ∀ e ∈ es, (e.transitions.map (·.1)).Nodup → ∀ label target,
        (e.definition location).transitions.get? label = some target ↔
          (label, target) ∈ e.transitions := by
  have hd : ∀ e ∈ es, Block.definition? location ⟨numeral e.id, style.body e⟩ =
      some (e.definition location) :=
    fun e hm => definition?_body (he e hm) location
  refine ⟨?_, fun e _ hn label target => Transitions.get?_ofList_of_nodup hn⟩
  rw [states, String.toList_ofList, blocks_text he, List.filterMap_map]
  exact List.filterMap_eq_map_iff_forall_eq_some.mpr hd

end Style

def keysOnly : Entry where
  id := 4
  name := "type"
  type := "name"
  description := "transitions"
  descriptionMyTurn := ""
  action := "possibleactions"
  possibleActions := ["description", "actAction"]
  transitions := [("transitions", 7), ("", 4)]

theorem keysOnly_states :
    (∀ e ∈ [keysOnly], e.Writable) ∧
      states (.ofList (Style.standard.text [keysOnly])) "states.inc.php" =
        [keysOnly.definition "states.inc.php"] ∧
      (keysOnly.transitions.map (·.1)).Nodup ∧
      (keysOnly.definition "states.inc.php").transitions.get? "" = some 4 := by
  have plain {s : String} (h : '"' ∉ s.toList ∧ '\n' ∉ s.toList) : Plain s := ⟨h.left, h.right⟩
  have hw : ∀ e ∈ [keysOnly], e.Writable := by
    simp only [List.forall_mem_singleton]
    refine ⟨by decide, plain (by decide), plain (by decide), plain (by decide), plain (by decide),
      plain (by decide), ?_, ?_⟩
    · simp only [keysOnly, List.forall_mem_cons]
      exact ⟨⟨by decide, plain (by decide), by decide⟩, ⟨by decide, plain (by decide), by decide⟩,
        nofun⟩
    · simp only [keysOnly, List.forall_mem_cons]
      exact ⟨⟨plain (by decide), by decide⟩, ⟨plain (by decide), by decide⟩, nofun⟩
  have hn : (keysOnly.transitions.map (·.1)).Nodup := by decide
  have ⟨read, transitions⟩ := Style.standard.states_text hw "states.inc.php"
  exact ⟨hw, read, hn, (transitions keysOnly List.mem_cons_self hn "" 4).mpr (by decide)⟩

end StateLint.StateArray
