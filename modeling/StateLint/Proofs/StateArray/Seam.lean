import StateLint.Proofs.StateArray.Field
import StateLint.Proofs.Text.Search

namespace StateLint.StateArray

open Text Reader

-- A text that starts with a line break and, blanks aside, the opening `<id> => [` of a block.
inductive OpensLine : List Char → Prop
  | intro {b₁ id b₂ b₃ rest} : Blank b₁ → id ≠ [] → (∀ c ∈ id, isDigit c) → Blank b₂ → Blank b₃ →
    OpensLine ('\n' :: (b₁ ++ (id ++ (b₂ ++ '=' :: '>' :: (b₃ ++ '[' :: rest)))))

theorem digits_not_blank {id t : List Char} (hn : id ≠ []) (hd : ∀ c ∈ id, isDigit c) :
    ∀ c ∈ (id ++ t).head?, isBlank c = false :=
  fun c hc => not_isBlank_of_isDigit (head_append hn hd c hc)

theorem OpensLine.gap {t : List Char} : OpensLine t → Gap t
  | .intro h₁ hn hd _ _ => by
    have hb : ∀ c ∈ '\n' :: _, isBlank c := List.forall_mem_cons.mpr ⟨rfl, h₁⟩
    refine ⟨fun c hc => ?_, ?_⟩
    · cases hc
      rfl
    · rw [← List.cons_append, dropWhile_stop hb (digits_not_blank hn hd)]
      exact head_append hn hd

namespace Block

theorem opening_ignores {w : List Char} (h : Gap w) : opening.Ignores w := by
  refine .bind (.run1 fun c hc => not_isDigit_of_isBlank (h.blank c hc)) fun _ => ?_
  exact h.blanks_literal (by simp [Solid, isBlank]) rfl rfl <|
    h.blanks_literal (by simp [Solid, isBlank]) rfl rfl (.pure _)

theorem opening_misses {s t : List Char} (h : ∀ c ∈ s, isDigit c = false) : opening.Misses s t :=
  misses_of_heads fun c hc cs => by simp [opening, bind_eq, digits, run1, h c hc]

theorem opening_misses_blank {s t : List Char} (h : Blank s) : opening.Misses s t :=
  opening_misses fun c hc => not_isDigit_of_isBlank (h c hc)

def endingDigits : Reader Unit := do
  let _ ← digits
  blanks
  literal "=>"

theorem ending_of_ne {c : Char} (h : c ≠ '\n') (cs : List Char) : ending (c :: cs) = none := by
  have hk : ending.key (c :: cs) = none := by
    simp [ending.key, bind_eq, literal_cons (l := "\n") rfl h]
  simp [ending, orElse_eq, hk, literal_cons (l := "\n];") rfl h]

theorem ending_lineBreak (cs : List Char) :
    ending ('\n' :: cs) = (endingDigits (cs.dropWhile isBlank)).or (literal "];" cs) := by
  have hl : literal "\n];" ('\n' :: cs) = literal "];" cs := rfl
  rw [ending, orElse_eq, hl]
  rfl

theorem endingDigits_ignores {w : List Char} (h : Gap w) : endingDigits.Ignores w := by
  refine .bind (.run1 fun c hc => not_isDigit_of_isBlank (h.blank c hc)) fun _ => ?_
  exact .blanks_bind (h.literal (by simp [Solid, isBlank])) rfl (h.literal_dropWhile rfl rfl)

theorem ending_of_key {v id b rest : List Char} (hv : Blank v) (hn : id ≠ [])
    (hd : ∀ c ∈ id, isDigit c) (hb : Blank b) :
    (ending ('\n' :: (v ++ (id ++ (b ++ '=' :: '>' :: rest))))).isSome := by
  have hi : ∀ c ∈ (b ++ '=' :: '>' :: rest).head?, isDigit c = false := by
    intro c hc
    cases b
    case nil =>
      cases hc
      rfl
    case cons d _ =>
      cases hc
      exact not_isDigit_of_isBlank (hb c List.mem_cons_self)
  have h : endingDigits (id ++ (b ++ '=' :: '>' :: rest)) = some ((), rest) :=
    bind_eq_some.mpr ⟨_, _, run1_append hn hd hi,
      bind_eq_some.mpr ⟨_, _, blanks_append hb (by rintro _ ⟨⟩; rfl), literal_append "=>" _⟩⟩
  simp [ending_lineBreak, dropWhile_stop hv (digits_not_blank hn hd), h]

theorem ending_of_blank {s : List Char} (h : Blank s) : ending s = none := by
  cases s
  case nil => rfl
  case cons c cs =>
    have hs : Blank cs := h.suffix (List.suffix_cons c cs)
    have hl : literal "];" cs = none := by
      cases cs
      case nil => rfl
      case cons d ds =>
        refine literal_cons rfl ?_
        rintro rfl
        exact hs.not_mem rfl List.mem_cons_self
    by_cases hc : c = '\n'
    case neg => exact ending_of_ne hc cs
    case pos =>
      simp [hc, ending_lineBreak, dropWhile_eq_nil_iff_blank.mpr hs, endingDigits, bind_eq, digits,
        run1_eq, hl]

-- No ending reaches across the seam, unless there are only blanks before it.
theorem ending_append {s w : List Char} (hw : Gap w) (hs : ¬Blank s) :
    ending (s ++ w) = (ending s).map fun x => (x.1, x.2 ++ w) := by
  cases s
  case nil => simp [Blank] at hs
  case cons c cs =>
    by_cases hc : c = '\n'
    case neg => simp [ending_of_ne hc]
    case pos =>
      subst hc
      have hn : cs.dropWhile isBlank ≠ [] := fun hn =>
        hs (List.forall_mem_cons.mpr ⟨rfl, dropWhile_eq_nil_iff_blank.mp hn⟩)
      have hd : (cs ++ w).dropWhile isBlank = cs.dropWhile isBlank ++ w := by
        simp [List.dropWhile_append, hn]
      have hl := (hw.literal (l := "];") (by simp [Solid, isBlank])) cs
      simp only [List.cons_append, ending_lineBreak, hd, endingDigits_ignores hw _, hl]
      cases endingDigits (cs.dropWhile isBlank) <;> rfl

theorem ending_of_opensLine {s w : List Char} (hs : Blank s) (hh : ∀ c ∈ s.head?, c = '\n') :
    OpensLine w → (ending (s ++ w)).isSome
  | @OpensLine.intro b₁ _ _ _ _ h₁ hn hd h₂ _ => by
    cases s
    case nil => exact ending_of_key h₁ hn hd h₂
    case cons c cs =>
      have hv : Blank (cs ++ '\n' :: b₁) :=
        List.forall_mem_append.mpr ⟨(List.forall_mem_cons.mp hs).right,
          List.forall_mem_cons.mpr ⟨rfl, h₁⟩⟩
      have ha (t) : cs ++ '\n' :: (b₁ ++ t) = (cs ++ '\n' :: b₁) ++ t := by simp
      rw [hh c rfl, List.cons_append, ha]
      exact ending_of_key hv hn hd h₂

-- Where a body ends when `w` stands behind its text `s`.
inductive Seam (w s : List Char) : Prop
  -- It ends in `s`, as it does without `w`.
  | inside : (ending.anywhere.split s).2 ≠ [] →
      ending.anywhere.split (s ++ w) =
        ((ending.anywhere.split s).1, (ending.anywhere.split s).2 ++ w) → Seam w s
  -- It ends with `s`, blanks aside.
  | before {v g} : (ending.anywhere.split s).2 = [] → Blank g → s = v ++ g →
      ending.anywhere.split (s ++ w) = (v, g ++ w) → Seam w s

theorem Seam.cons {w cs : List Char} {c : Char} (h : ending (c :: cs) = none)
    (hw : ending (c :: (cs ++ w)) = none) :
    Seam w cs → Seam w (c :: cs)
  | .inside hn ha => .inside (by simpa [Pattern.split_anywhere_cons, h] using hn) <| by
    simp [Pattern.split_anywhere_cons, h, hw, ha]
  | .before (v := v) he hg hs ha =>
    .before (v := c :: v) (by simpa [Pattern.split_anywhere_cons, h] using he) hg
    (by rw [hs, List.cons_append]) <| by simp [Pattern.split_anywhere_cons, hw, ha]

theorem seam_of_opensLine {w : List Char} (hw : OpensLine w) (s : List Char) : Seam w s := by
  -- In front of `w` an ending starts at the first line break of the blanks that `s` ends with.
  have start {s} (hb : Blank s) (hh : ∀ c ∈ s.head?, c = '\n') : Seam w s := by
    have he := Pattern.split_go_of_none (b := none) fun t ht => ending_of_blank (hb.suffix ht)
    refine .before (v := []) (congrArg Prod.snd he) hb rfl ?_
    have h := ending_of_opensLine hb hh hw
    cases hs : s ++ w
    case nil => rfl
    case cons c cs => rw [Pattern.split_anywhere_cons, if_pos (hs ▸ h)]
  induction s
  case nil => exact start (by simp [Blank]) (by simp)
  case cons c cs hi =>
    by_cases hb : Blank (c :: cs)
    case pos =>
      by_cases hc : c = '\n'
      case pos => exact start hb (by simp [hc])
      case neg => exact hi.cons (ending_of_ne hc cs) (ending_of_ne hc _)
    case neg =>
      have ha := ending_append hw.gap hb
      cases he : ending (c :: cs)
      case none => exact hi.cons he (by simpa [he] using ha)
      case some =>
        have hw : (ending (c :: (cs ++ w))).isSome := by simpa [he] using congrArg Option.isSome ha
        exact .inside (by simp [Pattern.split_anywhere_cons, he])
          (by simp [Pattern.split_anywhere_cons, he, hw])

end Block

theorem blocks_of_none {s : List Char} (h : Block.opening.anywhere.find? s = none) :
    blocks s = [] := by
  rw [blocks]
  split <;> simp_all

theorem blocks_of_some {s id rest} (h : Block.opening.anywhere.find? s = some (id, rest)) :
    blocks s =
      ⟨id, (Block.ending.anywhere.split rest).1⟩ ::
        blocks (Block.ending.anywhere.split rest).2 := by
  rw [blocks]
  split <;> simp_all

theorem blocks_congr {s t : List Char}
    (h : Block.opening.anywhere.find? s = Block.opening.anywhere.find? t) :
    blocks s = blocks t := by
  cases ht : Block.opening.anywhere.find? t
  case none => rw [blocks_of_none ht, blocks_of_none (h.trans ht)]
  case some => rw [blocks_of_some ht, blocks_of_some (h.trans ht)]

theorem find?_opening_of_blank {s : List Char} (h : Blank s) :
    Block.opening.anywhere.find? s = none :=
  Pattern.find?_eq_none_of_misses (Block.opening_misses_blank h)

theorem find?_opening_append {w : List Char} (hw : Gap w) (s : List Char) :
    Block.opening.anywhere.find? (s ++ w) =
      ((Block.opening.anywhere.find? s).map fun x => (x.1, x.2 ++ w)).or
        (Block.opening.anywhere.find? w) :=
  Pattern.find?_append (Block.opening_ignores hw) s

theorem blocks_append_of_none {s w : List Char} (hw : Gap w)
    (h : Block.opening.anywhere.find? s = none) :
    blocks (s ++ w) = blocks w :=
  blocks_congr (by simp [find?_opening_append hw, h])

theorem filterMap_cons {location : String} (b : Block) (bs : List Block) :
    (b :: bs).filterMap (·.definition? location) = (b.definition? location).toList ++
      bs.filterMap (·.definition? location) := by
  cases h : b.definition? location <;> simp [h]

theorem filterMap_blocks_append {location : String} {s w : List Char} (hw : OpensLine w) :
    (blocks (s ++ w)).filterMap (·.definition? location) =
      (blocks s).filterMap (·.definition? location) ++
        (blocks w).filterMap (·.definition? location) := by
  induction s using blocks.induct
  case case1 s h =>
    rw [blocks_append_of_none hw.gap h, blocks_of_none h, List.filterMap_nil, List.nil_append]
  case case2 s id rest h parts hi =>
    have ha : Block.opening.anywhere.find? (s ++ w) = some (id, rest ++ w) := by
      simp [find?_opening_append hw.gap, h]
    rw [blocks_of_some h, blocks_of_some ha]
    cases Block.seam_of_opensLine hw rest
    case inside hn hs => rw [hs, filterMap_cons, filterMap_cons, hi, List.append_assoc]
    case before v g hn hg hr hs =>
      have hv : (Block.ending.anywhere.split rest).1 = v ++ g := by
        simpa [hn, ← hr] using Pattern.split_append Block.ending.anywhere rest
      have hb : Block.definition? location ⟨id, v ++ g⟩ = Block.definition? location ⟨id, v⟩ :=
        Block.definition?_append_blank hg
      have hg := blocks_append_of_none hw.gap (find?_opening_of_blank hg)
      have he : blocks [] = [] := blocks_of_none rfl
      rw [hs, hn, hv, filterMap_cons, filterMap_cons, hb, hg, he, List.filterMap_nil,
        List.append_nil]

theorem states_append {a b location : String} (h : OpensLine b.toList) :
    states (a ++ b) location = states a location ++ states b location := by
  rw [states, String.toList_append, filterMap_blocks_append h]
  rfl

theorem states_append_unclosed :
    OpensLine "\n6 => [\"name\" => \"next\"".toList ∧
      states ("5 => [\"name\" => \"turn" ++ "\n6 => [\"name\" => \"next\"") "states.inc.php" =
        states "5 => [\"name\" => \"turn" "states.inc.php" ++
          states "\n6 => [\"name\" => \"next\"" "states.inc.php" := by
  have hb : Blank [' '] := by simp [Blank, isBlank]
  have hd : ∀ c ∈ ['6'], isDigit c := List.all_eq_true.mp rfl
  have h : OpensLine "\n6 => [\"name\" => \"next\"".toList :=
    @OpensLine.intro [] ['6'] [' '] [' '] "\"name\" => \"next\"".toList (by simp [Blank])
      (by simp) hd hb hb
  exact ⟨h, states_append h⟩

end StateLint.StateArray
