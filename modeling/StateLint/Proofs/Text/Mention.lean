import StateLint.Proofs.Text.Search
import StateLint.Text.Basic

namespace StateLint.Text

open Reader

variable {s t w : List Char} {c : Char}

theorem prefix_append_cons (hc : c ∉ w) : w <+: s ++ c :: t ↔ w <+: s := by
  refine ⟨fun h => ?_, fun h => h.trans (List.prefix_append s _)⟩
  cases List.prefix_or_prefix_of_prefix h (List.prefix_append s (c :: t))
  case inl h => exact h
  case inr hs =>
    obtain ⟨u, rfl⟩ := hs
    cases List.prefix_cons_iff.mp ((List.prefix_append_right_inj s).mp h)
    case inl hu => simp [hu]
    case inr hu =>
      have ⟨_, hu, _⟩ := hu
      simp [hu] at hc

theorem infix_append_cons (hc : c ∉ w) : w <:+: s ++ c :: t ↔ w <:+: s ∨ w <:+: t := by
  constructor
  case mp =>
    intro h
    induction s
    case nil =>
      cases List.infix_cons_iff.mp h
      case inl h => exact .inl ((prefix_append_cons (s := []) hc).mp h).isInfix
      case inr h => exact .inr h
    case cons d s hi =>
      cases List.infix_cons_iff.mp h
      case inl h => exact .inl ((prefix_append_cons (s := d :: s) hc).mp h).isInfix
      case inr h => exact (hi h).imp_left fun h => h.trans (List.suffix_cons d s).isInfix
  case mpr =>
    intro h
    cases h
    case inl h => exact h.trans (List.prefix_append s _).isInfix
    case inr h => exact h.trans ((List.suffix_cons c t).trans (List.suffix_append s _)).isInfix

theorem mentions_iff {w : String} (hw : w.toList ≠ []) : mentions w s ↔ w.toList <:+: s := by
  constructor
  case mp =>
    intro h
    have ⟨x, hx⟩ := Option.isSome_iff_exists.mp h
    have ⟨_, t, ht, hr⟩ := Pattern.find?_go_eq_some hx
    have hp := literal_eq_some.mp hr
    exact List.infix_iff_prefix_suffix.mpr ⟨t, hp ▸ List.prefix_append .., ht⟩
  case mpr =>
    intro h
    have ⟨t, ⟨u, hu⟩, ht⟩ := List.infix_iff_prefix_suffix.mp h
    have hn : t ≠ [] := by
      rintro rfl
      exact hw (List.append_eq_nil_iff.mp hu).left
    exact Pattern.occursIn_anywhere ht hn (Option.isSome_iff_exists.mpr ⟨((), u),
      literal_eq_some.mpr hu.symm⟩)

end StateLint.Text
