import StateLint.Proofs.Text.Mention
import StateLint.ServerScript

namespace StateLint

open Text Reader

variable {s t u v w : List Char}

namespace Text

theorem exists_trim (s : List Char) :
    ∃ b b', (∀ c ∈ b, isBlank c) ∧ (∀ c ∈ b', isBlank c) ∧ s = b ++ (trim s ++ b') := by
  let r := (s.dropWhile isBlank).reverse
  refine ⟨s.takeWhile isBlank, (r.takeWhile isBlank).reverse, fun c => List.mem_takeWhile_imp,
    fun c hc => ?_, ?_⟩
  · exact List.mem_takeWhile_imp (List.mem_reverse.mp hc)
  · rw [trim, ← List.reverse_append, List.takeWhile_append_dropWhile, List.reverse_reverse,
      List.takeWhile_append_dropWhile]

theorem trim_padded {b b' : List Char} (hb : ∀ c ∈ b, isBlank c) (hb' : ∀ c ∈ b', isBlank c)
    {c : Char} (hc : isBlank c = false) : trim (b ++ (c :: b')) = [c] := by
  have hr : (c :: b').reverse = b'.reverse ++ [c] := List.reverse_cons
  have hb' : ∀ d ∈ b'.reverse, isBlank d := fun d hd => hb' d (List.mem_reverse.mp hd)
  rw [trim, dropWhile_stop hb (by simpa using hc), hr, dropWhile_stop hb' (by simpa using hc),
    List.reverse_singleton]

theorem trim_eq_singleton {c : Char} (hc : isBlank c = false) :
    trim s = [c] ↔ ∃ b b', (∀ d ∈ b, isBlank d) ∧ (∀ d ∈ b', isBlank d) ∧ s = b ++ c :: b' := by
  constructor
  case mp =>
    intro h
    have ⟨b, b', hb, hb', hs⟩ := exists_trim s
    exact ⟨b, b', hb, hb', by rw [hs, h, List.singleton_append]⟩
  case mpr =>
    rintro ⟨b, b', hb, hb', rfl⟩
    exact trim_padded hb hb' hc

end Text

namespace ServerScript

theorem returned_statement (hs : ';' ∉ w) (t : List Char) :
    returned ("return".toList ++ (w ++ ';' :: t)) =
      if 1 < w.length ∧ w.head?.any isBlank then some (trim w, t) else none := by
  rw [returned, bind_eq, literal_append, Option.bind_some, bind_eq, run_until hs,
    Option.bind_some, bind_eq, show ';' :: t = ";".toList ++ t from rfl, literal_append,
    Option.bind_some]
  by_cases hw : 1 < w.length ∧ w.head?.any isBlank
  case pos =>
    have hc : (decide (w.length > 1) && w.head?.any isBlank) = true := by simpa using hw
    rw [if_pos hw, if_pos hc]
    rfl
  case neg =>
    have hc : ¬(decide (w.length > 1) && w.head?.any isBlank) = true := by simpa using hw
    rw [if_neg hw, if_neg hc]
    rfl

theorem returned_shape {x : List Char × List Char} (h : returned s = some x) :
    ∃ w t, ';' ∉ w ∧ s = "return".toList ++ (w ++ ';' :: t) := by
  have ⟨_, s₁, h₁, hr⟩ := bind_eq_some.mp h
  have ⟨w, s₂, h₂, hw⟩ := bind_eq_some.mp hr
  have ⟨_, t, h₃, _⟩ := bind_eq_some.mp hw
  have ⟨hs, hw⟩ := run_until_eq_some h₂
  exact ⟨w, t, hs, by rw [literal_eq_some.mp h₁, hw, literal_eq_some.mp h₃]; rfl⟩

theorem returned_eq_some :
    returned s = some (v, t) ↔
      ∃ w, s = "return".toList ++ (w ++ ';' :: t) ∧ ';' ∉ w ∧ (1 < w.length ∧ w.head?.any isBlank) ∧
        trim w = v := by
  constructor
  case mp =>
    intro h
    obtain ⟨w, u, hs, rfl⟩ := returned_shape h
    rw [returned_statement hs, Option.ite_none_right_eq_some, Option.some.injEq, Prod.mk.injEq] at h
    obtain ⟨hw, hv, rfl⟩ := h
    exact ⟨w, rfl, hs, hw, hv⟩
  case mpr =>
    rintro ⟨w, rfl, hs, hw, rfl⟩
    rw [returned_statement hs, if_pos hw]

def Returns (value s : List Char) : Prop :=
  value ≠ [] ∧ ';' ∉ value ∧ ∃ b t, b ≠ [] ∧ (∀ c ∈ b, isBlank c) ∧
    s = "return".toList ++ (b ++ (value ++ ';' :: t))

def ReturnsZero (s : List Char) : Prop :=
  ∃ b, (∀ c ∈ b, isBlank c) ∧ Returns ('0' :: b) s

theorem Returns.returned_eq {b value : List Char} (hb : b ≠ []) (hbs : ∀ c ∈ b, isBlank c)
    (hn : value ≠ []) (hs : ';' ∉ value) (t : List Char) :
    returned ("return".toList ++ (b ++ (value ++ ';' :: t))) = some (trim (b ++ value), t) := by
  have hm : ';' ∉ b ++ value := by
    simp only [List.mem_append, hs, or_false]
    exact fun hm => absurd (hbs _ hm) (by decide)
  have hw : 1 < (b ++ value).length ∧ (b ++ value).head?.any isBlank := by
    obtain ⟨c, b, rfl⟩ := List.exists_cons_of_ne_nil hb
    have := List.length_pos_iff.mpr hn
    constructor
    case left =>
      simp only [List.length_append, List.length_cons]
      omega
    case right => exact hbs c List.mem_cons_self
  rw [← List.append_assoc b, returned_statement hm, if_pos hw]

theorem exists_returns_iff : (∃ value, Returns value s) ↔ (returned s).isSome := by
  rw [Option.isSome_iff_exists]
  constructor
  case mp =>
    rintro ⟨value, hn, hs, b, t, hb, hbs, rfl⟩
    exact ⟨_, Returns.returned_eq hb hbs hn hs t⟩
  case mpr =>
    intro ⟨⟨v, t⟩, h⟩
    have ⟨w, hw, hs, ⟨hl, hb⟩, _⟩ := returned_eq_some.mp h
    match w with
    | [] => contradiction
    | [_] => contradiction
    | c :: d :: w =>
      exact ⟨d :: w, by
        simp, fun hm => hs (List.mem_cons_of_mem c hm), [c], t, by simp, by simpa using hb, hw⟩

theorem returnsZero_iff : ReturnsZero s ↔ ∃ t, returned s = some (['0'], t) := by
  constructor
  case mp =>
    rintro ⟨b', hb', hn, hs, b, t, hb, hbs, rfl⟩
    refine ⟨t, ?_⟩
    rw [Returns.returned_eq hb hbs hn hs, trim_padded hbs hb' (by decide)]
  case mpr =>
    intro ⟨t, ht⟩
    have ⟨w, hw, hs, ⟨_, hc⟩, hv⟩ := returned_eq_some.mp ht
    have ⟨b, b', hb, hb', hw'⟩ := (trim_eq_singleton (by decide)).mp hv
    subst hw'
    refine ⟨b', hb', by simp, fun hm => hs (List.mem_append_right b hm), b, t, ?_, hb, by rw [hw,
      List.append_assoc]⟩
    rintro rfl
    have hc : isBlank '0' := hc
    exact absurd hc (by decide)

end ServerScript
end StateLint
