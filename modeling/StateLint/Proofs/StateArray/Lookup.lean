import StateLint.Proofs.StateArray.Layout

namespace StateLint.StateArray

open Text Reader

variable {α : Type} {r : Reader α} {key : String} {s t u : List Char}

def arrow (r : Reader α) : Reader α := do
  blanks
  literal "=>"
  r

def keyed (key : String) (r : Reader α) : Reader α := do
  literal "\""
  literal key
  literal "\""
  arrow r

def textContent : Reader String := do
  blanks
  literal "\""
  let value ← run (· != '"')
  literal "\""
  return .ofList value

def listContent : Reader (List Char) := do
  blanks
  literal "["
  let items ← run (· != ']')
  literal "]"
  return items

theorem textField_eq (key : String) : textField key = keyed key textContent :=
  rfl

theorem listField_eq (key : String) : listField key = keyed key listContent :=
  rfl

def NoNumeral (r : Reader α) : Prop :=
  ∀ n t, r (' ' :: (numeral n ++ t)) = none

theorem textContent_noNumeral : NoNumeral textContent := by
  intro n t
  simp [textContent, bind_eq, blanks_numeral, literal_numeral (l := "\"") rfl rfl]

theorem listContent_noNumeral : NoNumeral listContent := by
  intro n t
  simp [listContent, bind_eq, blanks_numeral, literal_numeral (l := "[") rfl rfl]

theorem textContent_eq (hs : '"' ∉ s) :
    textContent (' ' :: (quoted '"' s ++ t)) = some (.ofList s, t) := by
  rw [quoted_append]
  exact bind_eq_some.mpr ⟨_, _, blanks_cons rfl, bind_eq_some.mpr ⟨_, _, literal_append "\"" _,
    bind_eq_some.mpr ⟨_, _, run_until hs, bind_eq_some.mpr ⟨_, _, literal_append "\"" _, rfl⟩⟩⟩⟩

theorem listContent_eq (hs : ']' ∉ s) : listContent (' ' :: '[' :: (s ++ ']' :: t)) = some (s, t) :=
  bind_eq_some.mpr ⟨_, _, blanks_cons rfl, bind_eq_some.mpr ⟨_, _, literal_append "[" _,
    bind_eq_some.mpr ⟨_, _, run_until hs, bind_eq_some.mpr ⟨_, _, literal_append "]" _, rfl⟩⟩⟩⟩

theorem arrow_eq : arrow r (' ' :: '=' :: '>' :: t) = r t :=
  rfl

theorem arrow_of_ends (h : Ends t) : arrow r t = none := by
  cases t
  case nil => rfl
  case cons c cs =>
    have hb : isBlank c = false := by cases h c rfl <;> subst c <;> rfl
    have hl : literal "=>" (c :: cs) = none :=
      literal_cons rfl <| by cases h c rfl <;> subst c <;> decide
    simp [arrow, bind_eq, blanks, hb, hl]

theorem keyed_of_ne {c : Char} (h : c ≠ '"') (cs : List Char) : keyed key r (c :: cs) = none :=
  quoted_of_ne h cs

theorem keyed_quoted (hk : IsName key.toList) (hs : '"' ∉ s) :
    keyed key r (quoted '"' s ++ t) = if s = key.toList then arrow r t else none := by
  have hq : '"' ∉ key.toList := hk.not_mem rfl
  have hl (u) : literal "\"" ('"' :: u) = some ((), u) := literal_append "\"" u
  rw [quoted_append, keyed, bind_eq, hl, Option.bind_some]
  split
  case isTrue h => simp [h, bind_eq, literal_append, hl]
  case isFalse h =>
    refine Option.eq_none_iff_forall_ne_some.mpr fun x hx => h ?_
    have ⟨_, u, hu, hx⟩ := bind_eq_some.mp hx
    have ⟨_, v, hv, _⟩ := bind_eq_some.mp hx
    have he : s ++ '"' :: t = key.toList ++ '"' :: v :=
      (literal_eq_some.mp hu).trans (congrArg _ (literal_eq_some.mp hv))
    -- Neither text has a quotation mark before that one.
    have hw := run_until (t := t) hs
    rw [he, run_until hq] at hw
    simpa using (Prod.mk.inj (Option.some.inj hw)).left.symm

theorem listField_read (hk : IsName key.toList) (hs : ']' ∉ s) :
    listField key (quoted '"' key.toList ++ (" => [".toList ++ (s ++ ']' :: t))) = some (s, t) := by
  have he : " => [".toList ++ (s ++ ']' :: t) =
    ' ' :: '=' :: '>' :: (' ' :: '[' :: (s ++ ']' :: t)) := rfl
  rw [listField_eq, keyed_quoted hk (hk.not_mem rfl), if_pos rfl, he, arrow_eq, listContent_eq hs]

theorem listField_requires : (listField key).Requires ']' :=
  .bind (literal_leavesEnd _) fun _ => .bind (literal_leavesEnd _) fun _ =>
    .bind (literal_leavesEnd _) fun _ =>
    .bind blanks_leavesEnd fun _ => .bind (literal_leavesEnd _) fun _ =>
      .bind blanks_leavesEnd fun _ =>
      .bind (literal_leavesEnd _) fun _ => .bind (run_leavesEnd _) fun _ =>
        .bind_left (.literal (by decide))

namespace Block

variable {b : Block}

-- The list of a block is that of the first field that is written like one.
theorem list_of_avoids {before : List Char} (hb : b.body = before ++ u)
    (ha : (listField key).anywhere.Avoids u none before) (hr : listField key u = some (s, t)) :
    b.list key = s := by
  have hu : u ≠ [] := by
    rintro rfl
    nomatch hr
  rw [list, hb, Pattern.find?_of_avoids ha hu hr]

theorem list_of_open {before : List Char} (hb : b.body = before ++ u)
    (ha : (listField key).anywhere.Avoids u none before) (hu : ']' ∉ u) : b.list key = [] := by
  have hn {t} (ht : t <:+ u) : listField key t = none :=
    listField_requires fun hm => hu (ht.subset hm)
  rw [list, hb, Pattern.find?, Pattern.find?_go_of_avoids ha, Pattern.find?_go_of_none fun t => hn]

theorem exists_definition? (hi : (number? b.id).isSome) (hn : b.text "name" ≠ "")
    (location : String) :
    ∃ s, b.definition? location = some s ∧ s.transitions = b.transitions ∧
      s.actions = b.actions := by
  have ⟨id, hi⟩ := Option.isSome_iff_exists.mp hi
  have hn : b.text? "name" = some (b.text "name") := by simp [text?, hn]
  exact ⟨_, by rw [definition?, hi, hn]; rfl, rfl, rfl⟩

end Block

-- A text between quotation marks is no field if it is no key, or if what stands behind it is not
-- what follows a key.
theorem misses_quoted (hk : IsName key.toList) (hs : '"' ∉ s)
    (h : s = key.toList → arrow r t = none) (ht : ∀ c ∈ t.head?, isWord c = false) :
    (keyed key r).Misses (quoted '"' s) t := by
  have first : keyed key r (quoted '"' s ++ t) = none := by
    rw [keyed_quoted hk hs]
    split
    case isTrue he => exact h he
    case isFalse => rfl
  have within : (keyed key r).Misses s ('"' :: t) :=
    misses_of_heads fun c hc cs => keyed_of_ne (ne_of_mem_of_not_mem hc hs) cs
  have last : keyed key r ('"' :: t) = none := by
    have hl : literal "\"" ('"' :: t) = some ((), t) := literal_append "\"" t
    simp [keyed, bind_eq, hl, hk.literal_none ht]
  exact ⟨by simpa [quoted] using first, misses_append.mpr ⟨within, last, trivial⟩⟩

theorem misses_list {items : List (List Char)}
    (h : ∀ i ∈ items, ∀ u, Ends u → (keyed key r).Misses i u) :
    (keyed key r).Misses ('[' :: (separated items ++ [']'])) t := by
  refine ⟨keyed_of_ne (by decide) _,
    misses_append.mpr ⟨misses_separated h quoted_of_separator (by simp [Ends]), ?_⟩⟩
  exact ⟨keyed_of_ne (by decide) _, trivial⟩

theorem misses_content {f : Field} (hk : IsName key.toList) (hr : NoNumeral r) (hf : f.Writable)
    (ht : Ends t) :
    (keyed key r).Misses f.content t := by
  cases hf
  case text hv => exact misses_quoted hk hv.quote (fun _ => arrow_of_ends ht) ht.not_word
  case actions hn =>
    refine misses_list fun i hi u hu => ?_
    have ⟨n, hm, hi⟩ := List.mem_map.mp hi
    exact hi ▸ misses_quoted hk (hn n hm).right.quote (fun _ => arrow_of_ends hu) hu.not_word
  case transitions he =>
    refine misses_list fun i hi u hu => ?_
    have ⟨e, hm, hi⟩ := List.mem_map.mp hi
    subst hi
    -- A label may be a key, but a number follows it.
    refine misses_append.mpr
      ⟨misses_quoted hk (he e hm).quote (fun _ => hr e.2 u) (by simp [isWord]), ?_⟩
    refine misses_of_heads fun c hc => keyed_of_ne ?_
    rintro rfl
    simp [not_mem_numeral] at hc

theorem misses_write {f : Field} (hk : IsName key.toList) (hr : NoNumeral r) (hf : f.Writable)
    (h : f.key ≠ key) :
    (keyed key r).Misses f.write t := by
  refine misses_append.mpr ⟨misses_quoted hk (hf.key.not_mem rfl) (fun he => ?_) (by simp [isWord]),
    ?_⟩
  · exact absurd (String.toList_inj.mp he) h
  · refine misses_append.mpr ⟨misses_of_heads fun c hc => keyed_of_ne ?_, ?_⟩
    · rintro rfl
      simp at hc
    · exact misses_append.mpr ⟨misses_content hk hr hf (by simp [Ends]),
        keyed_of_ne (by decide) _, trivial⟩

theorem keyed_write {f : Field} {a : α} (hf : IsName f.key.toList)
    (ha : r (' ' :: (f.content ++ ',' :: t)) = some (a, u)) :
    keyed f.key r (f.write ++ t) = some (a, u) := by
  have he : f.write ++ t = quoted '"' f.key.toList ++
      (' ' :: '=' :: '>' :: (' ' :: (f.content ++ ',' :: t))) := by
    simp [Field.write]
  rw [he, keyed_quoted hf (hf.not_mem rfl), if_pos rfl, arrow_eq, ha]

theorem Blank.misses_keyed (h : Blank s) : (keyed key r).Misses s t := by
  refine misses_of_heads fun c hc => keyed_of_ne ?_
  rintro rfl
  exact h.not_mem rfl hc

section Lines

variable {inner : List Char} {fields : List Field}

theorem blank_line (h : Blank inner) : Blank ('\n' :: inner) :=
  List.forall_mem_cons.mpr ⟨rfl, h⟩

theorem misses_lines (hk : IsName key.toList) (hr : NoNumeral r) (hb : Blank inner)
    (hw : ∀ f ∈ fields, f.Writable) (h : ∀ f ∈ fields, f.key ≠ key) :
    (keyed key r).Misses (lines inner fields) t := by
  induction fields
  case nil => trivial
  case cons f fs hi =>
    have ⟨first, rest⟩ := List.forall_mem_cons.mp hw
    have ⟨hf, hs⟩ := List.forall_mem_cons.mp h
    rw [lines_cons, misses_append, misses_append]
    exact ⟨(blank_line hb).misses_keyed, misses_write hk hr first hf, hi rest hs⟩

theorem find?_lines {f : Field} {a : α} (hr : NoNumeral r) (hb : Blank inner)
    (hw : ∀ f ∈ fields, f.Writable) (hm : f ∈ fields) (hu : ∀ g ∈ fields, g.key = f.key → g = f)
    (ha : ∀ t, r (' ' :: (f.content ++ t)) = some (a, t)) :
    ((keyed f.key r).anywhere.find? (lines inner fields ++ t)).map (·.1) = some a := by
  have hk := (hw f hm).key
  induction fields
  case nil => contradiction
  case cons g gs hi =>
    have ⟨first, rest⟩ := List.forall_mem_cons.mp hw
    have ⟨hg, hs⟩ := List.forall_mem_cons.mp hu
    rw [lines_cons, List.append_assoc, List.append_assoc,
      Pattern.find?_of_misses (blank_line hb).misses_keyed]
    by_cases he : g.key = f.key
    case pos =>
      rw [hg he, Pattern.find?_of_reads (by simp [Field.write, quoted]) (keyed_write hk (ha _))]
      rfl
    case neg =>
      rw [Pattern.find?_of_misses (misses_write hk hr first he)]
      exact hi rest ((List.mem_cons.mp hm).resolve_left fun h => he (h ▸ rfl)) hs

end Lines

theorem item_eq (hn : s ≠ []) (hs : '"' ∉ s) : item (quoted '"' s ++ t) = some (.ofList s, t) := by
  rw [quoted_append]
  exact bind_eq_some.mpr ⟨_, _, literal_append "\"" _, bind_eq_some.mpr ⟨_, _, run1_until hn hs,
    bind_eq_some.mpr ⟨_, _, literal_append "\"" _, rfl⟩⟩⟩

theorem findAll_item {names : List String} (h : ∀ n ∈ names, n ≠ "" ∧ Listable n) :
    item.anywhere.findAll (separated (names.map Field.writeName)) = names := by
  have found : item.anywhere.findAll (separated (names.map Field.writeName)) = names.map id := by
    refine findAll_separated ?_ ?_ ?_
    · simp [Field.writeName, quoted]
    · intro n hm t _
      have hi :=
        item_eq (s := n.toList) (t := t) (by simpa using (h n hm).left) (h n hm).right.quote
      rwa [String.ofList_toList] at hi
    · exact quoted_of_separator
  rw [found, List.map_id]

theorem transition_eq_behindLabel :
    transition = (do
      literal "\""
      let label ← run (· != '"')
      literal "\""
      let target ← behindLabel
      return (.ofList label, target)) := by
  simp [transition, behindLabel]

theorem transition_read {d : List Char} (hs : '"' ∉ s) (hd : IsDecimal d) (ht : Ends t) :
    transition (quoted '"' s ++ (" => ".toList ++ d) ++ t) = some ((.ofList s, d), t) := by
  have he : quoted '"' s ++ (" => ".toList ++ d) ++ t =
      '"' :: (s ++ '"' :: (' ' :: '=' :: '>' :: ' ' :: (d ++ t))) := by
    simp [quoted]
  rw [he, transition_eq_behindLabel]
  exact bind_eq_some.mpr ⟨_, _, literal_append "\"" _, bind_eq_some.mpr ⟨_, _, run_until hs,
    bind_eq_some.mpr ⟨_, _, literal_append "\"" _,
      bind_eq_some.mpr ⟨_, _, behindLabel_read hd ht, rfl⟩⟩⟩⟩

theorem transition_eq {e : String × UInt32} (he : '"' ∉ e.1.toList) (ht : Ends t) :
    transition (Field.writeEntry e ++ t) = some ((e.1, numeral e.2), t) := by
  rw [Field.writeEntry, transition_read he (isDecimal_numeral e.2) ht, String.ofList_toList]

theorem findAll_transition {entries : List (String × UInt32)} (h : ∀ e ∈ entries, Listable e.1) :
    transition.anywhere.findAll (separated (entries.map Field.writeEntry)) =
      entries.map fun e => (e.1, numeral e.2) := by
  refine findAll_separated ?_ ?_ ?_
  · simp [Field.writeEntry, quoted]
  · exact fun e hm t ht => transition_eq (h e hm).quote ht
  · exact quoted_of_separator

end StateLint.StateArray
