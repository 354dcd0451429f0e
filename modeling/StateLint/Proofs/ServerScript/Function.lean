import StateLint.Proofs.FirstOccurrence
import StateLint.Proofs.ServerScript.Method

namespace StateLint

open Text Reader

variable {α : Type} {r : Reader α} {a : α} {s t u v m n p rest : List Char}

namespace Text

theorem eq_of_append_cons {q : Char} (hm : q ∉ m) (hn : q ∉ n) (h : m ++ q :: s = n ++ q :: t) :
    m = n ∧ s = t := by
  have hr : (m, q :: s) = (n, q :: t) :=
    Option.some.inj ((run_until hm).symm.trans (h ▸ run_until hn))
  exact ⟨congrArg Prod.fst hr, (List.cons.inj (congrArg Prod.snd hr)).right⟩

namespace Pattern

-- What is read at a place is among what a text is cut at, if nothing that is read before the place
-- reaches over it.
theorem exists_mem_cut_go (hr : r t = some (a, rest)) (ht : t ≠ []) {skip : Nat}
    {b : Option Char}
    (hp : ∀ s x, s <:+ p → s ≠ [] → r (s ++ t) = some x → t.length ≤ x.2.length)
    (hs : skip ≤ p.length) :
    ∃ body, (a, body) ∈ (cut.go r.anywhere skip b (p ++ t)).2 := by
  induction p generalizing skip b
  case nil =>
    obtain ⟨c, cs, rfl⟩ := List.exists_cons_of_ne_nil ht
    obtain rfl : skip = 0 := Nat.le_zero.mp hs
    have hr : r.anywhere b (c :: cs) = some (a, rest) := hr
    simp only [List.nil_append, cut.go, hr]
    exact ⟨_, List.mem_cons_self⟩
  case cons c cs hi =>
    have hi {skip b} (hs : skip ≤ cs.length) :
        ∃ body, (a, body) ∈ (cut.go r.anywhere skip b (cs ++ t)).2 :=
      hi (fun s x hs => hp s x (hs.trans (List.suffix_cons c cs))) hs
    cases skip
    case succ n => exact hi (Nat.le_of_succ_le_succ hs)
    case zero =>
      simp only [List.cons_append, cut.go]
      split
      case h_1 x u hx =>
        have hu : t.length ≤ u.length :=
          hp (c :: cs) (x, u) List.suffix_rfl (List.cons_ne_nil c cs) hx
        have hl : (cs ++ t).length - u.length ≤ cs.length := by
          rw [List.length_append]
          omega
        obtain ⟨body, h⟩ := hi (b := some c) hl
        exact ⟨body, List.mem_cons_of_mem _ h⟩
      case h_2 => exact hi (Nat.zero_le _)

end Pattern
end Text

namespace ServerScript

def OpenHead (s : List Char) : Prop :=
  ∃ b n b' u, (b ≠ [] ∧ ∀ c ∈ b, isBlank c) ∧ IsName n ∧ (∀ c ∈ b', isBlank c) ∧ ')' ∉ u ∧
    s = ("function".toList ++ (b ++ (n ++ b'))) ++ '(' :: u

-- A script declares a method of that name: an empty one stands in it, and not within the parameters
-- of a function.
def Declares (text n : String) : Prop :=
  ∃ p t, text.toList = p ++ (declaration n ++ ("() \x7b\x7d".toList ++ t)) ∧
    ∀ s, s <:+ p → ¬OpenHead s

theorem functionHead_eq_some {params : List Char} (h : functionHead s = some ((n, params), t)) :
    ∃ b b', (b ≠ [] ∧ ∀ c ∈ b, isBlank c) ∧ IsName n ∧ (∀ c ∈ b', isBlank c) ∧ ')' ∉ params ∧
      s = ("function".toList ++ (b ++ (n ++ b'))) ++ '(' :: (params ++ ')' :: t) := by
  obtain ⟨_, s₁, h₁, h⟩ := bind_eq_some.mp h
  obtain ⟨_, s₂, h₂, h⟩ := bind_eq_some.mp h
  obtain ⟨m, s₃, h₃, h⟩ := bind_eq_some.mp h
  obtain ⟨_, s₄, h₄, h⟩ := bind_eq_some.mp h
  obtain ⟨_, s₅, h₅, h⟩ := bind_eq_some.mp h
  obtain ⟨w, s₆, h₆, h⟩ := bind_eq_some.mp h
  obtain ⟨_, s₇, h₇, h⟩ := bind_eq_some.mp h
  obtain ⟨hx, ht⟩ := pure_eq_some.mp h
  cases hx
  subst ht
  obtain ⟨b, hn, hb, hs₁⟩ := blanks1_eq_some h₂
  obtain ⟨hne, hs₂, hw⟩ := name_eq_some h₃
  obtain ⟨b', hb', hs₃⟩ := blanks_eq_some h₄
  obtain ⟨hp, hs₅⟩ := run_until_eq_some h₆
  have h₅ : s₄ = '(' :: s₅ := literal_eq_some.mp h₅
  have h₇ : s₆ = ')' :: s₇ := literal_eq_some.mp h₇
  refine ⟨b, b', ⟨hn, hb⟩, ⟨hne, hw⟩, hb', hp, ?_⟩
  rw [literal_eq_some.mp h₁, hs₁, hs₂, hs₃, h₅, hs₅, h₇]
  simp only [List.append_assoc]

theorem functionHead_declaration {n : String} (hn : IsName n.toList) (t : List Char) :
    functionHead (declaration n ++ ('(' :: ')' :: t)) = some ((n.toList, []), t) := by
  have hp : ∀ c ∈ ('(' :: ')' :: t).head?, isWord c = false := by
    rintro _ ⟨⟩
    decide
  rw [functionHead, keyword_declaration hn, bind_eq, hn.read hp, Option.bind_some]
  rfl

theorem not_mem_head {b b' : List Char} (hm : IsName m) (hb : ∀ c ∈ b, isBlank c)
    (hb' : ∀ c ∈ b', isBlank c) :
    '(' ∉ "function".toList ++ (b ++ (m ++ b')) := by
  have hf : '(' ∉ "function".toList := by decide
  have hp : isBlank '(' = false := by decide
  have hm := hm.not_mem (c := '(') (by decide)
  simp only [List.mem_append, hf, not_mem_of_isBlank hb hp, not_mem_of_isBlank hb' hp, hm, or_self,
    not_false_eq_true]

theorem eq_nil_of_head {n : String} {b b' : List Char} (hn : IsName n.toList) (hm : IsName m)
    (hb : b ≠ [] ∧ ∀ c ∈ b, isBlank c) (hb' : ∀ c ∈ b', isBlank c)
    (h : "function".toList ++ (b ++ (m ++ b')) = s ++ declaration n) : s = [] := by
  have hd : s ++ declaration n = (s ++ "function".toList) ++ ' ' :: n.toList :=
    (List.append_assoc ..).symm
  have hs : isWord ' ' = false := by decide
  obtain ⟨b, c, rfl⟩ := (List.eq_nil_or_concat b).resolve_left hb.left
  have ⟨hbs, hc⟩ : (∀ c ∈ b, isBlank c) ∧ isBlank c := by simpa [or_imp, forall_and] using hb.right
  cases List.eq_nil_or_concat b'
  case inl hn' =>
    have hl : "function".toList ++ (b.concat c ++ (m ++ b')) = ("function".toList ++ b) ++
      c :: m := by simp [hn']
    have ⟨he, _⟩ :=
      eq_of_last_word hm.word hn.word (not_isWord_of_isBlank hc) hs (hl.symm.trans (h.trans hd))
    exact eq_nil_of_keyword hbs he
  case inr hn' =>
    obtain ⟨d, e, rfl⟩ := hn'
    have he : isBlank e := hb' e (by simp)
    have hl : "function".toList ++ (b.concat c ++ (m ++ d.concat e)) =
        ("function".toList ++ (b.concat c ++ (m ++ d))) ++ e :: [] := by simp
    have ⟨_, he⟩ :=
      eq_of_last_word (by simp) hn.word (not_isWord_of_isBlank he) hs (hl.symm.trans (h.trans hd))
    exact absurd he.symm hn.nonempty

-- No head that starts before a declaration reaches into it, unless it has parameters that are open
-- there.
theorem length_le_of_functionHead {n : String} (hn : IsName n.toList) (hs : s ≠ [])
    (ho : ¬OpenHead s) {x : (List Char × List Char) × List Char}
    (h : functionHead (s ++ (declaration n ++ '(' :: t)) = some x) :
    (declaration n ++ '(' :: t).length ≤ x.2.length := by
  obtain ⟨⟨m, params⟩, rest⟩ := x
  obtain ⟨b, b', hb, hm, hb', hp, he⟩ := functionHead_eq_some h
  obtain ⟨u, hu, hd⟩ | ⟨u, hu, hd⟩ := List.append_eq_append_iff.mp he
  -- The parameters start where those of the declaration do, so the two heads are one.
  case inl =>
    have hmu : '(' ∉ u := fun hc => not_mem_head hm hb.right hb' (hu ▸ List.mem_append_right s hc)
    have hmn : '(' ∉ declaration n := by
      have hb : ∀ c ∈ [' '], isBlank c := by simp [isBlank]
      have hd : '(' ∉ "function".toList ++ ([' '] ++ (n.toList ++ [])) :=
        not_mem_head hn hb (by simp)
      rwa [List.append_nil] at hd
    obtain ⟨he, _⟩ := eq_of_append_cons hmn hmu hd
    exact absurd (eq_nil_of_head hn hm hb hb' (he ▸ hu)) hs
  -- The parameters start before the declaration, and end there as well.
  case inr =>
    cases u
    case nil => cases (List.cons.inj hd).left
    case cons c u =>
      obtain ⟨rfl, hr⟩ := List.cons.inj hd
      have hc : ')' ∈ u := Classical.not_not.mp fun hc => ho ⟨b, m, b', u, hb, hm, hb', hc, hu⟩
      obtain ⟨v, w, rfl, hv⟩ := List.eq_append_cons_of_mem hc
      have hr : params ++ ')' :: rest = v ++ ')' :: (w ++ (declaration n ++ '(' :: t)) := by
        rw [hr, List.append_eq, List.append_assoc, List.cons_append]
      obtain ⟨_, hr⟩ := eq_of_append_cons hp hv hr
      exact hr ▸ (List.suffix_append w _).length_le

theorem exists_function {text n : String} (hn : IsName n.toList) (h : Declares text n) :
    ∃ f ∈ functions text, f.name = n := by
  obtain ⟨p, t, ht, hp⟩ := h
  have hh := functionHead_declaration hn (" \x7b\x7d".toList ++ t)
  have hne : declaration n ++ ("() \x7b\x7d".toList ++ t) ≠ [] := List.cons_ne_nil _ _
  have ⟨body, hm⟩ := Pattern.exists_mem_cut_go (p := p) (b := none) hh hne
    (fun s x hs hn' hx => length_le_of_functionHead hn hn' (hp s hs) hx) (Nat.zero_le _)
  refine ⟨_, List.mem_map_of_mem (ht ▸ hm), ?_⟩
  simp

theorem exists_playerAction {text : String} {f : PlayerAction} (hf : f ∈ functions text)
    (hn : f.normalName ≠ f.name) :
    ∃ a ∈ playerActions text, a.name = f.name :=
  exists_mem_eraseDupsBy PlayerAction.name (List.mem_filter.mpr ⟨hf, by simp [hn]⟩)

theorem mem_functions_of_playerAction {text : String} {f : PlayerAction}
    (hf : f ∈ playerActions text) :
    f ∈ functions text :=
  List.mem_of_mem_filter ((eraseDupsBy_sublist _ _).subset hf)

end ServerScript
end StateLint
