import StateLint.Proofs.Text.Keyword
import StateLint.Proofs.Text.Mention
import StateLint.ServerScript

namespace StateLint.ServerScript

open Text Reader

variable {α : Type} {k : Reader α} {n : String} {p s t u v b : List Char}

def methodNamed (n : String) (k : Reader α) : Reader α := do
  literal "function"
  blanks1
  literal n
  k

def declaration (n : String) : List Char :=
  "function".toList ++ ' ' :: n.toList

theorem eq_nil_of_keyword (hb : ∀ c ∈ b, isBlank c) (h : "function".toList ++ b = v ++ 'f' :: u) :
    v = [] := by
  cases v
  case nil => rfl
  case cons c v =>
    have ht : "unction".toList ++ b = v ++ 'f' :: u := (List.cons.inj h).right
    have hf : 'f' ∈ "unction".toList ++ b := ht ▸ List.mem_append_right v List.mem_cons_self
    cases List.mem_append.mp hf
    case inl hf => exact absurd hf (by decide)
    case inr hf => exact absurd (hb 'f' hf) (by decide)

theorem methodNamed_eq_some {x : α × List Char} (h : methodNamed n k s = some x) :
    ∃ b t, (∀ c ∈ b, isBlank c) ∧ s = "function".toList ++ b ++ (n.toList ++ t) := by
  have ⟨_, s₁, h₁, h⟩ := bind_eq_some.mp h
  have ⟨_, s₂, h₂, h⟩ := bind_eq_some.mp h
  have ⟨_, s₃, h₃, _⟩ := bind_eq_some.mp h
  have ⟨b, _, hb, hs⟩ := blanks1_eq_some h₂
  exact ⟨b, s₃, hb, by rw [literal_eq_some.mp h₁, hs, literal_eq_some.mp h₃, List.append_assoc]⟩

theorem infix_declaration (n : String) (p t : List Char) :
    n.toList <:+: p ++ (declaration n ++ t) := by
  refine ⟨p ++ ("function".toList ++ [' ']), t, ?_⟩
  unfold declaration
  simp only [List.append_assoc, List.cons_append, List.nil_append]

theorem keyword_declaration (hn : IsName n.toList) (k : Reader α) (t : List Char) :
    (literal "function" >>= fun _ => blanks1 >>= fun _ => k) (declaration n ++ t) =
      k (n.toList ++ t) := by
  have hh : ∀ c ∈ (n.toList ++ t).head?, isBlank c = false :=
    fun c hc => not_isBlank_of_isWord (hn.head c hc)
  have hs : declaration n ++ t = "function".toList ++ ([' '] ++ (n.toList ++ t)) :=
    List.append_assoc ..
  rw [bind_eq, hs, literal_append, Option.bind_some, bind_eq,
    blanks1_append (by simp) (by simp [isBlank]) hh, Option.bind_some]

theorem methodNamed_declaration (hn : IsName n.toList) (k : Reader α) (t : List Char) :
    methodNamed n k (declaration n ++ t) = k t := by
  rw [methodNamed, keyword_declaration hn, bind_eq, literal_append, Option.bind_some]

theorem find?_methodNamed_eq_none (h : ¬n.toList <:+: t) :
    (methodNamed n k).anywhere.find? t = none := by
  refine Pattern.find?_go_of_none fun u hu => Option.eq_none_iff_forall_ne_some.mpr fun x hx => h ?_
  have ⟨b, v, _, hv⟩ := methodNamed_eq_some hx
  have hi : n.toList <:+: u := ⟨"function".toList ++ b, v, by rw [hv, List.append_assoc]⟩
  exact hi.trans hu.isInfix

section

variable (hn : IsName n.toList) (hf : 'f' ∉ n.toList)
include hn hf

theorem misses_methodNamed (hp : ¬n.toList <:+: p) (t : List Char) :
    (methodNamed n k).Misses p ('f' :: t) := by
  induction p
  case nil => trivial
  case cons c p hi =>
    refine ⟨Option.eq_none_iff_forall_ne_some.mpr fun x hx => ?_,
      hi fun h => hp (h.trans (List.suffix_cons c p).isInfix)⟩
    have ⟨b, v, hb, hv⟩ := methodNamed_eq_some hx
    have hv : (c :: p) ++ 'f' :: t = ("function".toList ++ b) ++ (n.toList ++ v) := hv
    obtain ⟨u, hu, hd⟩ | ⟨u, hu, hd⟩ := List.append_eq_append_iff.mp hv
    case inl =>
      cases u
      -- The blanks end where the declaration starts, and the name would have to start with it.
      case nil =>
        have hs : n.toList <+: [] ++ 'f' :: t := ⟨v, hd.symm⟩
        exact hn.nonempty (List.prefix_nil.mp ((prefix_append_cons hf).mp hs))
      -- The blanks go on into the declaration.
      case cons d u =>
        obtain rfl : 'f' = d := (List.cons.inj hd).left
        exact absurd (eq_nil_of_keyword hb hu) (List.cons_ne_nil c p)
    -- The name stands before the declaration.
    case inr =>
      have hs : n.toList <+: u ++ 'f' :: t := ⟨v, hd⟩
      exact hp (hu ▸ ((prefix_append_cons hf).mp hs).isInfix.trans (List.suffix_append _ u).isInfix)

-- The method is looked for first where it is declared, and then behind its name.
theorem find?_methodNamed (hp : ¬n.toList <:+: p) (k : Reader α) (t : List Char) :
    (methodNamed n k).anywhere.find? (p ++ (declaration n ++ t)) =
      (k t).or ((methodNamed n k).anywhere.find? t) := by
  have hd : declaration n = 'f' :: ("unction".toList ++ ' ' :: n.toList) := rfl
  have hm : (methodNamed n k).Misses ("unction".toList ++ ' ' :: n.toList) t := by
    refine misses_of_heads fun c hc cs => ?_
    have hc : c ≠ 'f' := by
      rintro rfl
      obtain hc | hc := List.mem_append.mp hc
      · exact absurd hc (by decide)
      · exact hf ((List.mem_cons.mp hc).resolve_left (by decide))
    rw [methodNamed, bind_eq, literal_cons (l := "function") rfl hc, Option.bind_none]
  rw [hd, List.cons_append, Pattern.find?_of_misses (misses_methodNamed hn hf hp _),
    Pattern.find?_anywhere_cons, Pattern.find?_of_misses hm]
  exact congrArg (Option.or · _) (methodNamed_declaration hn k t)

end

end StateLint.ServerScript
