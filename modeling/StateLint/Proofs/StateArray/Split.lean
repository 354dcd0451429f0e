import StateLint.Proofs.StateArray.Seam

namespace StateLint.StateArray

open Text Reader

structure IsId (s : List Char) : Prop where
  nonempty : s ≠ []
  digits   : ∀ c ∈ s, isDigit c

def IsArrow (s : List Char) : Prop :=
  ∃ b b', Blank b ∧ Blank b' ∧ s = b ++ '=' :: '>' :: (b' ++ ['['])

inductive StartsKey : List Char → Prop
  | intro {b id b' rest} : Blank b → IsId id → Blank b' →
    StartsKey ('\n' :: (b ++ (id ++ (b' ++ '=' :: '>' :: rest))))

-- A stretch of a state array: what is passed over in front of a block, its opening, and its body.
structure Stretch where
  gap : List Char
  id : List Char
  arrow : List Char
  body : List Char

namespace Stretch

def text (p : Stretch) : List Char :=
  p.gap ++ (p.id ++ (p.arrow ++ p.body))

def block (p : Stretch) : Block :=
  ⟨p.id, p.body⟩

-- One round takes the stretch from the front of a text and leaves the rest: the first opening there
-- is that of the stretch, and the first ending behind it is where the rest starts.
structure Takes (p : Stretch) (rest : List Char) : Prop where
  gap   : Block.opening.Misses p.gap (p.id ++ (p.arrow ++ (p.body ++ rest)))
  id    : IsId p.id
  arrow : IsArrow p.arrow
  body  : Block.ending.Misses p.body rest
  rest  : rest ≠ [] → (Block.ending rest).isSome

end Stretch

-- A text as the rounds take it apart, until no opening is left.
inductive IsSplit : List Char → List Stretch → List Char → Prop
  | last {tail : List Char} : Block.opening.Misses tail [] → IsSplit tail [] tail
  | next {p : Stretch} {rest tail : List Char} {ps : List Stretch} : p.Takes rest →
    IsSplit rest ps tail → IsSplit (p.text ++ rest) (p :: ps) tail

variable {s t id arrow rest before b tail : List Char} {p : Stretch} {ps : List Stretch}

theorem IsArrow.three_le (h : IsArrow arrow) : 3 ≤ arrow.length := by
  obtain ⟨b, b', _, _, rfl⟩ := h
  simp
  omega

theorem IsArrow.not_digit (h : IsArrow arrow) : ∀ c ∈ (arrow ++ t).head?, isDigit c = false := by
  obtain ⟨b, b', hb, _, rfl⟩ := h
  intro c hc
  cases b
  case nil =>
    cases hc
    rfl
  case cons d _ =>
    cases hc
    exact not_isDigit_of_isBlank (hb c List.mem_cons_self)

namespace Block

theorem opening_iff :
    opening s = some (id, t) ↔ IsId id ∧ ∃ arrow, IsArrow arrow ∧ s = id ++ (arrow ++ t) := by
  constructor
  case mp =>
    intro h
    have ⟨d, s₁, h₁, h⟩ := bind_eq_some.mp h
    have ⟨_, s₂, h₂, h⟩ := bind_eq_some.mp h
    have ⟨_, s₃, h₃, h⟩ := bind_eq_some.mp h
    have ⟨_, s₄, h₄, h⟩ := bind_eq_some.mp h
    have ⟨_, s₅, h₅, h⟩ := bind_eq_some.mp h
    obtain ⟨rfl, rfl⟩ := pure_eq_some.mp h
    have ⟨hn, hd, hs⟩ := run1_eq_append h₁
    have ⟨b, hb, hs₁⟩ := blanks_eq_some h₂
    have ⟨b', hb', hs₃⟩ := blanks_eq_some h₄
    refine ⟨⟨hn, hd⟩, _, ⟨b, b', hb, hb', rfl⟩, ?_⟩
    rw [hs, hs₁, literal_eq_some.mp h₃, hs₃, literal_eq_some.mp h₅]
    simp
  case mpr =>
    rintro ⟨hi, arrow, ha, rfl⟩
    have first := ha.not_digit (t := t)
    obtain ⟨b, b', hb, hb', rfl⟩ := ha
    have equals : ∀ c ∈ ('=' :: '>' :: (b' ++ '[' :: t)).head?, isBlank c = false := by
      simp [isBlank]
    have bracket : ∀ c ∈ ('[' :: t).head?, isBlank c = false := by simp [isBlank]
    simp only [List.append_assoc, List.cons_append, List.nil_append] at first ⊢
    exact bind_eq_some.mpr ⟨_, _, run1_append hi.nonempty hi.digits first,
      bind_eq_some.mpr ⟨_, _, blanks_append hb equals,
      bind_eq_some.mpr ⟨_, _, literal_append "=>" _,
      bind_eq_some.mpr ⟨_, _, blanks_append hb' bracket,
        bind_eq_some.mpr ⟨_, _, literal_append "[" _, rfl⟩⟩⟩⟩⟩

theorem ending_of_startsKey (h : StartsKey s) : (ending (s ++ t)).isSome := by
  obtain ⟨hb, hi, hb'⟩ := h
  simpa using ending_of_key hb hi.nonempty hi.digits hb'

theorem ending_of_close (h : "\n];".toList <+: s) : (ending (s ++ t)).isSome := by
  obtain ⟨u, rfl⟩ := h
  have hl : literal "];" ("];".toList ++ (u ++ t)) = some ((), u ++ t) := literal_append "];" _
  have he : "\n];".toList ++ u ++ t = '\n' :: ("];".toList ++ (u ++ t)) := by simp
  rw [he, ending_lineBreak, hl, Option.isSome_or]
  simp

end Block

namespace Stretch.Takes

theorem opening_eq (h : p.Takes rest) :
    Block.opening (p.id ++ (p.arrow ++ (p.body ++ rest))) = some (p.id, p.body ++ rest) :=
  Block.opening_iff.mpr ⟨h.id, p.arrow, h.arrow, rfl⟩

theorem find?_eq (h : p.Takes rest) :
    Block.opening.anywhere.find? (p.text ++ rest) = some (p.id, p.body ++ rest) := by
  have hn : p.id ++ (p.arrow ++ (p.body ++ rest)) ≠ [] := by simp [h.id.nonempty]
  simp only [text, List.append_assoc]
  rw [Pattern.find?_of_misses h.gap, Pattern.find?_of_reads hn h.opening_eq]

theorem split_eq (h : p.Takes rest) :
    Block.ending.anywhere.split (p.body ++ rest) = (p.body, rest) := by
  have hs : Block.ending.anywhere.split rest = ([], rest) := by
    by_cases hn : rest = []
    case pos => rw [hn]; rfl
    case neg =>
      have ⟨_, hr⟩ := Option.isSome_iff_exists.mp (h.rest hn)
      exact Pattern.split_of_reads hr
  rw [Pattern.split_of_misses h.body, hs, List.append_nil]

theorem blocks_eq (h : p.Takes rest) : blocks (p.text ++ rest) = p.block :: blocks rest := by
  rw [blocks_of_some h.find?_eq, h.split_eq, block]

theorem four_le (h : p.Takes rest) : 4 ≤ p.text.length := by
  have := List.length_pos_iff.mpr h.id.nonempty
  have := h.arrow.three_le
  simp only [text, List.length_append]
  omega

theorem body_clear (h : p.Takes rest) (ht : t <:+ p.body) :
    ¬StartsKey t ∧ ¬"\n];".toList <+: t := by
  have missed (hn : t ≠ []) : ¬(Block.ending (t ++ rest)).isSome := by simp [h.body.eq_none ht hn]
  constructor
  case left =>
    intro hk
    refine missed ?_ (Block.ending_of_startsKey hk)
    rintro rfl
    nomatch hk
  case right =>
    intro hc
    refine missed ?_ (Block.ending_of_close hc)
    rintro rfl
    simp at hc

end Stretch.Takes

theorem exists_takes {x : List Char} (h : Block.opening.anywhere.find? s = some (id, x)) :
    ∃ p : Stretch, p.Takes (Block.ending.anywhere.split x).2 ∧
      s = p.text ++ (Block.ending.anywhere.split x).2 := by
  have ⟨gap, u, hs, hm, hu⟩ := Pattern.exists_misses_of_find? h
  have ⟨hi, arrow, ha, he⟩ := Block.opening_iff.mp hu
  have hx := Pattern.split_append Block.ending.anywhere x
  refine ⟨⟨gap, id, arrow, (Block.ending.anywhere.split x).1⟩, ⟨?_, hi, ha, ?_, ?_⟩, ?_⟩
  · simpa only [hx, ← he] using hm
  · exact Pattern.misses_split _ x
  · exact Pattern.isSome_split
  · simp only [Stretch.text, List.append_assoc, hx]
    rw [hs, he]

theorem exists_isSplit (s : List Char) : ∃ ps tail, IsSplit s ps tail := by
  induction s using blocks.induct
  case case1 s h => exact ⟨[], s, .last (Pattern.misses_of_find?_eq_none h)⟩
  case case2 s id x h parts hi =>
    obtain ⟨p, hp, rfl⟩ := exists_takes h
    obtain ⟨ps, tail, hs⟩ := hi
    exact ⟨p :: ps, tail, .next hp hs⟩

namespace IsSplit

theorem takes (h : IsSplit s ps tail) : ∀ p ∈ ps, ∃ rest, p.Takes rest := by
  induction h
  case last => simp
  case next hp _ hi => exact List.forall_mem_cons.mpr ⟨⟨_, hp⟩, hi⟩

theorem blocks_eq (h : IsSplit s ps tail) : blocks s = ps.map Stretch.block := by
  induction h
  case last hm => exact blocks_of_none (Pattern.find?_eq_none_of_misses hm)
  case next hp _ hi => rw [hp.blocks_eq, hi, List.map_cons]

theorem text_eq (h : IsSplit s ps tail) : s = ps.flatMap Stretch.text ++ tail := by
  induction h
  case last => rfl
  case next hi => rw [List.flatMap_cons, List.append_assoc, ← hi]

theorem length_le (h : IsSplit s ps tail) : 4 * ps.length + tail.length ≤ s.length := by
  induction h
  case last => simp
  case next hp _ hi =>
    have := hp.four_le
    simp only [List.length_cons, List.length_append]
    omega

end IsSplit

theorem IsId.opensLine (hi : IsId id) (hb : Blank b) (ha : IsArrow arrow) :
    OpensLine ('\n' :: (b ++ (id ++ (arrow ++ rest)))) := by
  obtain ⟨b₂, b₃, h₂, h₃, rfl⟩ := ha
  simpa using OpensLine.intro hb hi.nonempty hi.digits h₂ h₃

-- A round that finds an opening in front of a line leaves that line as it is: neither the opening
-- nor the body reach into it.
theorem Stretch.Takes.exists_rest {w : List Char} {x : List Char × List Char} (h : p.Takes rest)
    (hw : OpensLine w) (hs : p.text ++ rest = before ++ w)
    (hf : Block.opening.anywhere.find? before = some x) : ∃ u, rest = u ++ w := by
  have hx : Block.opening.anywhere.find? (before ++ w) = some (x.1, x.2 ++ w) := by
    rw [find?_opening_append hw.gap, hf, Option.map_some, Option.some_or]
  rw [← hs, h.find?_eq] at hx
  have hr : p.body ++ rest = x.2 ++ w := (Prod.mk.inj (Option.some.inj hx)).right
  have he : Block.ending.anywhere.split (x.2 ++ w) = (p.body, rest) := hr ▸ h.split_eq
  cases Block.seam_of_opensLine hw x.2
  case inside _ hi => exact ⟨_, congrArg Prod.snd (he.symm.trans hi)⟩
  case before hi => exact ⟨_, congrArg Prod.snd (he.symm.trans hi)⟩

theorem Stretch.Takes.gap_eq {u : List Char} (h : p.Takes u) (hb : Blank b) (hi : IsId id)
    (ha : IsArrow arrow) (hs : p.text ++ u = before ++ '\n' :: (b ++ (id ++ (arrow ++ rest))))
    (hf : Block.opening.anywhere.find? before = none) :
    p.gap = before ++ '\n' :: b ∧ p.id = id := by
  have hn : Blank ('\n' :: b) := List.forall_mem_cons.mpr ⟨rfl, hb⟩
  have hr : Block.opening (id ++ (arrow ++ rest)) = some (id, rest) :=
    Block.opening_iff.mpr ⟨hi, arrow, ha, rfl⟩
  have hm : Block.opening.Misses (before ++ '\n' :: b) (id ++ (arrow ++ rest)) := by
    have hw : Gap ('\n' :: (b ++ (id ++ (arrow ++ rest)))) := (hi.opensLine hb ha).gap
    refine .append (misses_of_ignores (Block.opening_ignores hw) fun v hv hv' => ?_)
      (Block.opening_misses_blank hn)
    simpa using (Pattern.misses_of_find?_eq_none hf).eq_none hv hv'
  have he : p.gap ++ (p.id ++ (p.arrow ++ (p.body ++ u))) = (before ++ '\n' :: b) ++
      (id ++ (arrow ++ rest)) := by
    simpa [Stretch.text] using hs
  have hg : p.gap = before ++ '\n' :: b :=
    h.gap.front_eq hm (by simp [h.opening_eq]) (by simp [hr]) he
  rw [hg] at he
  have hq := h.opening_eq
  rw [List.append_cancel_left he, hr] at hq
  exact ⟨hg, (congrArg Prod.fst (Option.some.inj hq)).symm⟩

-- An opening at the start of a line is the opening of a stretch.
theorem IsSplit.exists_stretch (h : IsSplit s ps tail) (hb : Blank b) (hi : IsId id)
    (ha : IsArrow arrow) (hs : s = before ++ '\n' :: (b ++ (id ++ (arrow ++ rest)))) :
    ∃ front p back, ps = front ++ p :: back ∧
      front.flatMap Stretch.text ++ p.gap = before ++ '\n' :: b ∧ p.id = id := by
  induction h generalizing before
  case last hm =>
    have hr : Block.opening (id ++ (arrow ++ rest)) = some (id, rest) :=
      Block.opening_iff.mpr ⟨hi, arrow, ha, rfl⟩
    have ho :=
      hm.eq_none (u := id ++ (arrow ++ rest)) ⟨before ++
      '\n' :: b, by simp [hs]⟩ (by simp [hi.nonempty])
    simp [hr] at ho
  case next p t tail ps hp _ hi' =>
    cases hf : Block.opening.anywhere.find? before
    case none => exact ⟨[], p, ps, rfl, hp.gap_eq hb hi ha hs hf⟩
    case some =>
      -- The line is left to the rounds that follow.
      obtain ⟨u, rfl⟩ := hp.exists_rest (hi.opensLine hb ha) hs hf
      have ⟨front, q, back, hps, hg, hq⟩ := hi' rfl
      have hu : p.text ++ u = before := by
        rw [← List.append_assoc] at hs
        exact List.append_cancel_right hs
      refine ⟨p :: front, q, back, by rw [hps, List.cons_append], ?_, hq⟩
      rw [List.flatMap_cons, List.append_assoc, hg, ← List.append_assoc, hu]

-- At any place there either is no opening left or a round to take, and a round takes four
-- characters at least. So a text is taken apart in no more rounds than a quarter of its characters.
-- The blocks are the stretches that are taken, in their order and apart from each other; no body
-- holds the start of a line that would end it; and every opening at the start of a line, whatever
-- stands before it, opens a block of its own with its own id.
theorem blocks_split (text : List Char) :
    (∀ s, Block.opening.Misses s [] ∧ blocks s = [] ∨
      ∃ (p : Stretch) (rest : List Char), p.Takes rest ∧ s = p.text ++ rest ∧
        blocks s = p.block :: blocks rest ∧ rest.length + 4 ≤ s.length) ∧
    ∃ ps tail,
      IsSplit text ps tail ∧
      blocks text = ps.map Stretch.block ∧
      text = ps.flatMap Stretch.text ++ tail ∧
      4 * ps.length + tail.length ≤ text.length ∧
      (∀ p ∈ ps, ∀ t, t <:+ p.body → ¬StartsKey t ∧ ¬"\n];".toList <+: t) ∧
      ∀ before b id arrow rest, Blank b → IsId id → IsArrow arrow →
        text = before ++ '\n' :: (b ++ (id ++ (arrow ++ rest))) →
          ∃ front p back, ps = front ++ p :: back ∧
            front.flatMap Stretch.text ++ p.gap = before ++ '\n' :: b ∧ p.id = id := by
  constructor
  case left =>
    intro s
    cases hf : Block.opening.anywhere.find? s
    case none => exact .inl ⟨Pattern.misses_of_find?_eq_none hf, blocks_of_none hf⟩
    case some =>
      obtain ⟨p, hp, rfl⟩ := exists_takes hf
      have := hp.four_le
      exact .inr ⟨p, _, hp, rfl, hp.blocks_eq, by rw [List.length_append]; omega⟩
  case right =>
    have ⟨ps, tail, h⟩ := exists_isSplit text
    refine ⟨ps, tail, h, h.blocks_eq, h.text_eq, h.length_le, fun p hp t ht => ?_, ?_⟩
    · have ⟨_, hp⟩ := h.takes p hp
      exact hp.body_clear ht
    · exact fun _ _ _ _ _ hb hi ha => h.exists_stretch hb hi ha

def unclosedArray : List Char :=
  "5 => [\"turn\n  6 => [".toList

theorem unclosedArray_split :
    (Blank "  ".toList ∧ IsId ['6'] ∧ IsArrow " => [".toList) ∧
      ∃ ps, blocks unclosedArray = ps.map Stretch.block ∧
        ∃ front p back, ps = front ++ p :: back ∧ front.flatMap Stretch.text ++ p.gap =
          "5 => [\"turn\n  ".toList ∧ p.id = ['6'] := by
  have hb : Blank "  ".toList := by simp [Blank, isBlank]
  have hi : IsId ['6'] := ⟨by simp, List.all_eq_true.mp rfl⟩
  have ha : IsArrow " => [".toList :=
    ⟨[' '], [' '], by simp [Blank, isBlank], by simp [Blank, isBlank], rfl⟩
  have ⟨ps, _, _, he, _, _, _, hl⟩ := (blocks_split unclosedArray).right
  exact ⟨⟨hb, hi, ha⟩, ps, he, hl "5 => [\"turn".toList _ _ _ [] hb hi ha rfl⟩

end StateLint.StateArray
