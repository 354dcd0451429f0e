import StateLint.Proofs.ServerScript.Function
import StateLint.Proofs.Text.Keyword
import StateLint.Proofs.Text.Places

namespace StateLint.ServerScript

open Text Reader Pattern

variable {s t u v n m tail front back : List Char} {c q : Char}

def sendOf : Reader (List Char) :=
  sendToAll <|> sendToOne <|> sendToAllPlayers

def nameFirst : Reader (List Char) := do
  blanks
  quotedName

def nameSecond : Reader (List Char) := do
  let _ ← run1 fun c => c != ',' && c != '(' && c != ')'
  literal ","
  blanks
  quotedName

def isQuote (c : Char) : Bool :=
  c == '\'' || c == '"'

def ofOpening (c : Char) : Bool :=
  isWord c || isBlank c || c == '-' || c == '>'

-- What stands between the first character of a send and its parenthesis. That character comes again
-- in the last word only.
structure Opening (front back : List Char) : Prop where
  front : ∀ c ∈ front, c ≠ 'n' ∧ ofOpening c
  back  : ∀ c ∈ back, isWord c || isBlank c

-- A name between quotation marks is read behind a stretch without parentheses.
structure Named (tail n t : List Char) : Prop where
  isName : IsName n
  shape : ∃ v q, '(' ∉ v ∧ isQuote q ∧ tail = v ++ (n ++ q :: t)

theorem quotedName_eq_append (h : quotedName s = some (n, t)) :
    IsName n ∧ ∃ p q, isQuote p ∧ isQuote q ∧ s = p :: (n ++ q :: t) := by
  have ⟨p, s₁, h₁, h⟩ := bind_eq_some.mp h
  have ⟨m, s₂, h₂, h⟩ := bind_eq_some.mp h
  have ⟨q, s₃, h₃, h⟩ := bind_eq_some.mp h
  obtain ⟨rfl, rfl⟩ := pure_eq_some.mp h
  obtain ⟨rfl, hp⟩ := one_eq_some.mp h₁
  obtain ⟨rfl, hq⟩ := one_eq_some.mp h₃
  obtain ⟨hn, rfl, hw⟩ := name_eq_some h₂
  exact ⟨⟨hn, hw⟩, p, q, hp, hq, rfl⟩

theorem nameFirst_eq_some (h : nameFirst s = some (n, t)) :
    IsName n ∧ ∃ b p q, (∀ c ∈ b, isBlank c) ∧ isQuote p ∧ isQuote q ∧
      s = b ++ p :: (n ++ q :: t) := by
  have ⟨_, s₁, h₁, h₂⟩ := bind_eq_some.mp h
  have ⟨b, hb, hs⟩ := blanks_eq_some h₁
  have ⟨hn, p, q, hp, hq, hs₁⟩ := quotedName_eq_append h₂
  exact ⟨hn, b, p, q, hb, hp, hq, hs₁ ▸ hs⟩

theorem nameSecond_eq_some (h : nameSecond s = some (n, t)) :
    ∃ recipient u, (',' ∉ recipient ∧ '(' ∉ recipient) ∧ s = recipient ++ ',' :: u ∧
      nameFirst u = some (n, t) := by
  have ⟨r, s₁, h₁, h⟩ := bind_eq_some.mp h
  have ⟨_, s₂, h₂, h⟩ := bind_eq_some.mp h
  have ⟨_, hr, hs⟩ := run1_eq_append h₁
  have hs₁ : s₁ = ',' :: s₂ := literal_eq_some.mp h₂
  refine ⟨r, s₂, ⟨fun hc => ?_, fun hc => ?_⟩, hs₁ ▸ hs, h⟩
  · simpa using hr ',' hc
  · simpa using hr '(' hc

theorem paren_ne_of_isQuote (h : isQuote q) : '(' ≠ q := by
  rintro rfl
  contradiction

theorem named_of_first (h : nameFirst s = some (n, t)) : Named s n t := by
  obtain ⟨hn, b, p, q, hb, hp, hq, rfl⟩ := nameFirst_eq_some h
  refine ⟨hn, b ++ [p], q, ?_, hq, by simp⟩
  have := not_mem_of_isBlank hb (c := '(') rfl
  have := paren_ne_of_isQuote hp
  simp [*]

theorem named_of_second (h : nameSecond s = some (n, t)) : Named s n t := by
  have ⟨r, u, ⟨_, hr⟩, hs, hu⟩ := nameSecond_eq_some h
  have ⟨hn, v, q, hv, hq, hs'⟩ := named_of_first hu
  refine ⟨hn, r ++ ',' :: v, q, ?_, hq, by simp [hs, hs']⟩
  simp [hr, hv]

theorem length_lt_of_second (hm : nameFirst s = some (m, u)) (hn : nameSecond s = some (n, t)) :
    n.length + 1 + t.length < u.length := by
  have ⟨isName, b, p, q, hb, hp, hq, hs⟩ := nameFirst_eq_some hm
  have ⟨r, w, _, hs', hw⟩ := nameSecond_eq_some hn
  have ⟨_, v, _, _, _, hv⟩ := named_of_first hw
  have comma : ',' ∉ b ++ p :: (m ++ [q]) := by
    have quote {q} (h : isQuote q) : ',' ≠ q := by
      rintro rfl
      contradiction
    simp [not_mem_of_isBlank hb (c := ',') rfl, isName.not_mem (c := ',') (by decide),
      quote hp, quote hq]
  have lengths := congrArg List.length hv
  simp only [List.length_append, List.length_cons] at lengths
  have hs : (b ++ p :: (m ++ [q])) ++ u = r ++ ',' :: w := by simpa [hs'] using hs.symm
  obtain ⟨x, hx, hu⟩ | ⟨x, hx, hu⟩ := List.append_eq_append_iff.mp hs
  case inl =>
    rw [hu, List.length_append, List.length_cons]
    omega
  case inr =>
    cases x
    case nil =>
      rw [List.nil_append] at hu
      rw [← hu, List.length_cons]
      omega
    case cons d x =>
      obtain ⟨rfl, _⟩ := List.cons.inj hu
      exact absurd (hx ▸ List.mem_append_right r List.mem_cons_self) comma

namespace Opening

theorem of_blanks {b : List Char} (hb : ∀ c ∈ b, isBlank c) : ∀ c ∈ b, c ≠ 'n' ∧ ofOpening c := by
  intro c hc
  refine ⟨?_, by simp [ofOpening, hb c hc]⟩
  rintro rfl
  exact absurd (hb 'n' hc) (by decide)

theorem of_all {w : List Char} (h : w.all fun c => c != 'n' && ofOpening c) :
    ∀ c ∈ w, c ≠ 'n' ∧ ofOpening c := by
  simpa using h

theorem ofOpening (h : Opening front back) : ∀ c ∈ 'n' :: (front ++ back), ofOpening c := by
  rw [List.forall_mem_cons, List.forall_mem_append]
  refine ⟨rfl, fun c hc => (h.front c hc).right, fun c hc => ?_⟩
  have := h.back c hc
  simp only [ServerScript.ofOpening, this, Bool.true_or]

theorem not_paren (h : Opening front back) : '(' ∉ 'n' :: (front ++ back) :=
  fun hc => absurd (h.ofOpening '(' hc) (by decide)

end Opening

def arrow : Reader Unit := do
  literal "notify"
  blanks
  literal "->"
  blanks

theorem arrow_eq_some {x : Unit} (h : arrow s = some (x, t)) :
    ∃ w, '-' ∈ w ∧ (∀ c ∈ w, c ≠ 'n' ∧ ofOpening c) ∧ s = 'n' :: (w ++ t) := by
  have ⟨_, s₁, h₁, h⟩ := bind_eq_some.mp h
  have ⟨_, s₂, h₂, h⟩ := bind_eq_some.mp h
  have ⟨_, s₃, h₃, h₄⟩ := bind_eq_some.mp h
  have ⟨b, hb, hs₁⟩ := blanks_eq_some h₂
  have ⟨b', hb', hs₃⟩ := blanks_eq_some h₄
  refine ⟨"otify".toList ++ (b ++ ("->".toList ++ b')), by simp, ?_, ?_⟩
  · simp only [List.forall_mem_append]
    exact ⟨Opening.of_all rfl, Opening.of_blanks hb, Opening.of_all rfl, Opening.of_blanks hb'⟩
  · rw [literal_eq_some.mp h₁, hs₁, literal_eq_some.mp h₃, hs₃]
    simp

theorem sendToAll_eq : sendToAll = (do
    arrow
    literal "all"
    let _ ← run isWord
    blanks
    literal "("
    nameFirst) := by
  simp only [sendToAll, arrow, nameFirst, bind_assoc]

theorem sendToOne_eq : sendToOne = (do
    (do
      arrow
      literal "player"
      let _ ← optional (literal "s")) <|> literal "notifyPlayer"
    blanks
    literal "("
    nameSecond) := by
  simp only [sendToOne, arrow, nameSecond, bind_assoc]

theorem sendToAll_eq_some (h : sendToAll s = some (n, t)) :
    ∃ u w b tail, arrow s = some ((), "all".toList ++ u) ∧ u = w ++ (b ++ '(' :: tail) ∧
      (∀ c ∈ w, isWord c) ∧ (∀ c ∈ b, isBlank c) ∧ nameFirst tail = some (n, t) := by
  rw [sendToAll_eq] at h
  have ⟨_, s₁, h₁, h⟩ := bind_eq_some.mp h
  have ⟨_, s₂, h₂, h⟩ := bind_eq_some.mp h
  have ⟨w, s₃, h₃, h⟩ := bind_eq_some.mp h
  have ⟨_, s₄, h₄, h⟩ := bind_eq_some.mp h
  have ⟨_, s₅, h₅, h⟩ := bind_eq_some.mp h
  have ⟨b, hb, hs₃⟩ := blanks_eq_some h₄
  have hs₄ : s₄ = '(' :: s₅ := literal_eq_some.mp h₅
  have ⟨hw, hs₂⟩ := run_eq_some h₃
  exact ⟨s₂, w, b, s₅, literal_eq_some.mp h₂ ▸ h₁, by rw [hs₂, hs₃, hs₄], hw, hb, h⟩

theorem sendToAllPlayers_eq_some (h : sendToAllPlayers s = some (n, t)) :
    ∃ b tail, s = "notifyAllPlayers".toList ++ (b ++ '(' :: tail) ∧ (∀ c ∈ b, isBlank c) ∧
      nameFirst tail = some (n, t) := by
  have ⟨_, s₁, h₁, h⟩ := bind_eq_some.mp h
  have ⟨_, s₂, h₂, h⟩ := bind_eq_some.mp h
  have ⟨_, s₃, h₃, h⟩ := bind_eq_some.mp h
  have ⟨b, hb, hs₁⟩ := blanks_eq_some h₂
  have hs₂ : s₂ = '(' :: s₃ := literal_eq_some.mp h₃
  exact ⟨b, s₃, by rw [literal_eq_some.mp h₁, hs₁, hs₂], hb, h⟩

theorem sendToOne_eq_some (h : sendToOne s = some (n, t)) :
    ∃ u b tail, ((∃ w, (w = [] ∨ w = ['s']) ∧ arrow s = some ((), "player".toList ++ (w ++ u))) ∨
      s = "notifyPlayer".toList ++ u) ∧ u = b ++ '(' :: tail ∧ (∀ c ∈ b, isBlank c) ∧
        nameSecond tail = some (n, t) := by
  rw [sendToOne_eq] at h
  have ⟨_, s₁, h₁, h⟩ := bind_eq_some.mp h
  have ⟨_, s₂, h₂, h⟩ := bind_eq_some.mp h
  have ⟨_, s₃, h₃, hn⟩ := bind_eq_some.mp h
  have ⟨b, hb, hs₁⟩ := blanks_eq_some h₂
  have hs₂ : s₂ = '(' :: s₃ := literal_eq_some.mp h₃
  refine ⟨s₁, b, s₃, ?_, hs₂ ▸ hs₁, hb, hn⟩
  rw [orElse_eq] at h₁
  cases Option.or_eq_some_iff.mp h₁
  case inr h₁ => exact .inr (literal_eq_some.mp h₁.right)
  case inl h₁ =>
    have ⟨_, s₄, h₄, h⟩ := bind_eq_some.mp h₁
    have ⟨_, s₅, h₅, h⟩ := bind_eq_some.mp h
    have ⟨_, s₆, h₆, h₇⟩ := bind_eq_some.mp h
    obtain rfl := literal_eq_some.mp h₅
    obtain rfl := (pure_eq_some.mp h₇).right
    cases optional_eq_some h₆
    case inl hs => exact .inl ⟨[], .inl rfl, hs ▸ h₄⟩
    case inr hs =>
      have ⟨_, hs⟩ := hs
      exact .inl ⟨['s'], .inr rfl, literal_eq_some.mp hs ▸ h₄⟩

theorem sendToAll_opening (h : sendToAll s = some (n, t)) :
    ∃ front back tail, Opening front back ∧ '-' ∈ front ∧
      s = 'n' :: (front ++ (back ++ '(' :: tail)) ∧ nameFirst tail = some (n, t) := by
  obtain ⟨_, w, b, tail, ha, rfl, hw, hb, hn⟩ := sendToAll_eq_some h
  have ⟨v, dash, hv, hs⟩ := arrow_eq_some ha
  refine ⟨v ++ "all".toList, w ++ b, tail, ⟨?_, ?_⟩, List.mem_append_left _ dash, by simp [hs], hn⟩
  · exact List.forall_mem_append.mpr ⟨hv, Opening.of_all rfl⟩
  · exact List.forall_mem_append.mpr ⟨fun c hc => by simp [hw c hc], fun c hc => by simp [hb c hc]⟩

theorem sendToOne_opening (h : sendToOne s = some (n, t)) :
    ∃ front tail, Opening front [] ∧ s = 'n' :: (front ++ '(' :: tail) ∧
      nameSecond tail = some (n, t) := by
  obtain ⟨_, b, tail, ⟨w, hw, ha⟩ | hs, rfl, hb, hn⟩ := sendToOne_eq_some h
  case inl =>
    have ⟨v, _, hv, hs⟩ := arrow_eq_some ha
    have hw : ∀ c ∈ w, c ≠ 'n' ∧ ofOpening c := by
      obtain rfl | rfl := hw <;> exact Opening.of_all rfl
    refine ⟨v ++ ("player".toList ++ (w ++ b)), tail, ⟨?_, by simp⟩, by simp [hs], hn⟩
    simp only [List.forall_mem_append]
    exact ⟨hv, Opening.of_all rfl, hw, Opening.of_blanks hb⟩
  case inr =>
    refine ⟨"otifyPlayer".toList ++ b, tail, ⟨?_, by simp⟩, by simp [hs], hn⟩
    exact List.forall_mem_append.mpr ⟨Opening.of_all rfl, Opening.of_blanks hb⟩

theorem sendToAllPlayers_opening (h : sendToAllPlayers s = some (n, t)) :
    ∃ front tail, Opening front [] ∧ s = 'n' :: (front ++ '(' :: tail) ∧
      nameFirst tail = some (n, t) := by
  have ⟨b, tail, hs, hb, hn⟩ := sendToAllPlayers_eq_some h
  refine ⟨"otifyAllPlayers".toList ++ b, tail, ⟨?_, by simp⟩, by simp [hs], hn⟩
  exact List.forall_mem_append.mpr ⟨Opening.of_all rfl, Opening.of_blanks hb⟩

theorem sendOf_opening (h : sendOf s = some (n, t)) :
    ∃ front back tail, Opening front back ∧ s = 'n' :: (front ++ (back ++ '(' :: tail)) ∧
      (nameFirst tail = some (n, t) ∨ back = [] ∧ nameSecond tail = some (n, t)) := by
  rw [sendOf, orElse_eq, orElse_eq, Option.or_eq_some_iff, Option.or_eq_some_iff] at h
  obtain h | ⟨_, h | ⟨_, h⟩⟩ := h
  · have ⟨front, back, tail, ho, _, hs, hn⟩ := sendToAll_opening h
    exact ⟨front, back, tail, ho, hs, .inl hn⟩
  · have ⟨front, tail, ho, hs, hn⟩ := sendToOne_opening h
    exact ⟨front, [], tail, ho, hs, .inr ⟨rfl, hn⟩⟩
  · have ⟨front, tail, ho, hs, hn⟩ := sendToAllPlayers_opening h
    exact ⟨front, [], tail, ho, hs, .inl hn⟩

theorem named_of_eq_some {P : Prop}
    (h : nameFirst s = some (n, t) ∨ P ∧ nameSecond s = some (n, t)) : Named s n t :=
  h.elim named_of_first fun h => named_of_second h.right

theorem sendOf_cons (h : c ≠ 'n') (s : List Char) : sendOf (c :: s) = none := by
  refine Option.eq_none_iff_forall_ne_some.mpr fun ⟨n, t⟩ hs => ?_
  have ⟨_, _, _, _, hs, _⟩ := sendOf_opening hs
  exact h (List.cons.inj hs).left

-- A send does not start in a stretch without parentheses whose last character cannot stand in front
-- of one.
theorem sendOf_closed (hv : '(' ∉ v) (hc : ofOpening c = false) (hp : c ≠ '(') :
    sendOf (v ++ c :: t) = none := by
  refine Option.eq_none_iff_forall_ne_some.mpr fun ⟨n, t'⟩ hs => ?_
  have ⟨front, back, tail, ho, hs, _⟩ := sendOf_opening hs
  have hs : v ++ c :: t = ('n' :: (front ++ back)) ++ '(' :: tail := by simpa using hs
  obtain ⟨w, hw, hu⟩ | ⟨w, hw, hu⟩ := List.append_eq_append_iff.mp hs
  case inl =>
    cases w
    case nil => exact hp (List.cons.inj hu).left
    case cons d w =>
      obtain ⟨rfl, _⟩ := List.cons.inj hu
      have := ho.ofOpening c (hw ▸ List.mem_append_right v List.mem_cons_self)
      simp [hc] at this
  case inr =>
    cases w
    case nil => exact hp (List.cons.inj hu).left.symm
    case cons d w =>
      obtain ⟨rfl, _⟩ := List.cons.inj hu
      exact hv (hw ▸ List.mem_append_right _ List.mem_cons_self)

theorem sendOf_misses_closed (hv : '(' ∉ v) (hc : ofOpening c = false) (hp : c ≠ '(') :
    sendOf.Misses (v ++ [c]) t := by
  induction v
  case nil => exact ⟨sendOf_closed (v := []) hv hc hp, trivial⟩
  case cons d ds hi =>
    refine ⟨?_, hi fun h => hv (List.mem_cons_of_mem d h)⟩
    have := sendOf_closed (t := t) hv hc hp
    simpa using this

theorem not_ofOpening_of_isQuote (h : isQuote q) : ofOpening q = false := by
  simp only [isQuote, Bool.or_eq_true, beq_iff_eq] at h
  obtain rfl | rfl := h <;> rfl

namespace Named

theorem length_le (h : Named s n t) : n.length + 1 + t.length ≤ s.length := by
  have ⟨v, q, _, _, hs⟩ := h.shape
  rw [hs]
  simp only [List.length_append, List.length_cons]
  omega

-- No send starts behind the parenthesis of another one before its name has ended.
theorem misses (h : Named s n t) : ∃ u, s = u ++ t ∧ sendOf.Misses ('(' :: u) t := by
  have ⟨v, q, hv, hq, hs⟩ := h.shape
  refine ⟨(v ++ n) ++ [q], by simp [hs], sendOf_cons (by decide) _, ?_⟩
  have hn := h.isName.not_mem (c := '(') (by decide)
  exact sendOf_misses_closed (by simp [hv, hn]) (not_ofOpening_of_isQuote hq)
    (paren_ne_of_isQuote hq).symm

end Named

theorem Opening.misses (h : Opening front back) (s : List Char) : sendOf.Misses front s :=
  misses_of_heads fun c hc => sendOf_cons (h.front c hc).left

theorem misses_forms (h : sendOf.Misses s t) :
    sendToAll.Misses s t ∧ sendToOne.Misses s t ∧ sendToAllPlayers.Misses s t := by
  induction s
  case nil => exact ⟨trivial, trivial, trivial⟩
  case cons c cs hi =>
    have ⟨ha, ho, hp⟩ := hi h.right
    have hs := h.left
    simp only [sendOf, orElse_eq, Option.or_eq_none_iff] at hs
    exact ⟨⟨hs.left, ha⟩, ⟨hs.right.left, ho⟩, hs.right.right, hp⟩

theorem sendToAll_misses_back (hb : ∀ c ∈ back, isWord c || isBlank c) (tail : List Char) :
    sendToAll.Misses back ('(' :: tail) := by
  induction back
  case nil => trivial
  case cons c cs hi =>
    refine ⟨Option.eq_none_iff_forall_ne_some.mpr fun ⟨n, t⟩ hs => ?_,
      hi fun d hd => hb d (List.mem_cons_of_mem c hd)⟩
    have ⟨front', back', tail', ho, dash, hs, _⟩ := sendToAll_opening hs
    have paren : '(' ∉ c :: cs := fun hc => absurd (hb _ hc) (by decide)
    have hs : (c :: cs) ++ '(' :: tail = ('n' :: (front' ++ back')) ++ '(' :: tail' := by
      simpa using hs
    have hs := (eq_of_append_cons paren ho.not_paren hs).left
    have dash : '-' ∈ c :: cs := hs ▸ List.mem_cons_of_mem _ (List.mem_append_left _ dash)
    exact absurd (hb _ dash) (by decide)

theorem separate_of_opening {r : Reader (List Char)}
    (hr : ∀ {s t}, sendOf.Misses s t → r.Misses s t)
    (h : ∀ {s n t}, r s = some (n, t) → ∃ front back tail, Opening front back ∧
      r.Misses back ('(' :: tail) ∧ s = 'n' :: (front ++ (back ++ '(' :: tail)) ∧ Named tail n t) :
    r.Separate := by
  intro c s n t hs
  have ⟨front, back, tail, ho, hb, hs, hn⟩ := h hs
  have ⟨u, hu, hm⟩ := hn.misses
  refine ⟨front ++ (back ++ '(' :: u), by simp [(List.cons.inj hs).right, hu], ?_⟩
  rw [hu] at hb
  exact (hr (ho.misses _)).append (Misses.append hb (hr hm))

theorem sendToAll_separate : sendToAll.Separate :=
  separate_of_opening (fun h => (misses_forms h).left) fun h =>
    have ⟨front, back, tail, ho, _, hs, hn⟩ := sendToAll_opening h
    ⟨front, back, tail, ho, sendToAll_misses_back ho.back tail, hs, named_of_first hn⟩

theorem sendToOne_separate : sendToOne.Separate :=
  separate_of_opening (fun h => (misses_forms h).right.left) fun h =>
    have ⟨front, tail, ho, hs, hn⟩ := sendToOne_opening h
    ⟨front, [], tail, ho, trivial, hs, named_of_second hn⟩

theorem sendToAllPlayers_separate : sendToAllPlayers.Separate :=
  separate_of_opening (fun h => (misses_forms h).right.right) fun h =>
    have ⟨front, tail, ho, hs, hn⟩ := sendToAllPlayers_opening h
    ⟨front, [], tail, ho, trivial, hs, named_of_first hn⟩

theorem arrow_notifyPlayer (t : List Char) : arrow ("notifyPlayer".toList ++ t) = none :=
  rfl

theorem arrow_notifyAllPlayers (t : List Char) : arrow ("notifyAllPlayers".toList ++ t) = none :=
  rfl

theorem sendToOne_none_of_all (h : sendToAll s = some (n, t)) : sendToOne s = none := by
  have ⟨u, _, _, _, ha, _⟩ := sendToAll_eq_some h
  refine Option.eq_none_iff_forall_ne_some.mpr fun ⟨m, v⟩ ho => ?_
  obtain ⟨_, _, _, ⟨_, _, ho⟩ | rfl, _⟩ := sendToOne_eq_some ho
  case inl => simp [ha] at ho
  case inr => cases (arrow_notifyPlayer _).symm.trans ha

theorem sendToAll_none_of_allPlayers (h : sendToAllPlayers s = some (n, t)) :
    sendToAll s = none := by
  obtain ⟨_, _, rfl, _⟩ := sendToAllPlayers_eq_some h
  refine Option.eq_none_iff_forall_ne_some.mpr fun ⟨m, v⟩ ha => ?_
  have ⟨u, _, _, _, ha, _⟩ := sendToAll_eq_some ha
  cases (arrow_notifyAllPlayers _).symm.trans ha

theorem sendToOne_none_of_allPlayers (h : sendToAllPlayers s = some (n, t)) :
    sendToOne s = none := by
  obtain ⟨_, _, rfl, _⟩ := sendToAllPlayers_eq_some h
  refine Option.eq_none_iff_forall_ne_some.mpr fun ⟨m, v⟩ ho => ?_
  obtain ⟨_, _, _, ⟨_, _, ho⟩ | ho, _⟩ := sendToOne_eq_some ho
  case inl => cases (arrow_notifyAllPlayers _).symm.trans ho
  case inr => simp at ho

theorem one_form (s : List Char) :
    (sendToAll s = none ∨ (sendToOne <|> sendToAllPlayers) s = none) ∧
      (sendToOne s = none ∨ sendToAllPlayers s = none) := by
  rw [orElse_eq, Option.or_eq_none_iff]
  cases hp : sendToAllPlayers s
  case some =>
    exact ⟨.inl (sendToAll_none_of_allPlayers hp), .inl (sendToOne_none_of_allPlayers hp)⟩
  case none =>
    cases ha : sendToAll s
    case none => exact ⟨.inl rfl, .inr rfl⟩
    case some => exact ⟨.inr ⟨sendToOne_none_of_all ha, rfl⟩, .inr rfl⟩

end StateLint.ServerScript
