import StateLint.Proofs.NormalForm

namespace StateLint.Action

variable {name next other last : List Char} {k n : Nat}

inductive Strips : List Char → List Char → Prop
  | intro {c : Char} (cs : List Char) : c.isUpper →
    Strips ('a' :: 'c' :: 't' :: c :: cs) (c.toLower :: cs)

inductive Rounds : Nat → List Char → List Char → Prop
  | none {name : List Char} : Rounds 0 name name
  | step {n : Nat} {name next last : List Char} : Strips name next → Rounds n next last →
    Rounds (n + 1) name last

theorem Strips.prefixed : Strips name next → Prefixed name
  | .intro cs hc => ⟨_, cs, rfl, hc⟩

theorem Strips.deterministic : Strips name next → Strips name other → next = other
  | .intro _ _, .intro _ _ => rfl

theorem Rounds.eq_of_zero : Rounds 0 name last → last = name
  | .none => rfl

theorem rounds_normalize (name : List Char) : ∃ k, Rounds k name (normalize name) := by
  induction name using normalize.induct
  case case1 c cs hc hi =>
    obtain ⟨k, h⟩ := hi
    exact ⟨k + 1, .step (.intro cs hc) (normalize_act hc cs ▸ h)⟩
  case case2 c cs hc =>
    rw [normalize, if_neg hc]
    exact ⟨0, .none⟩
  case case3 name h =>
    have hp : ¬Prefixed name := by
      rintro ⟨c, cs, hn, _⟩
      exact h c cs hn
    rw [normalize_of_not_prefixed hp]
    exact ⟨0, .none⟩

-- Where there are no more rounds to take, every other sequence of rounds is a part of those that
-- were taken.
theorem Rounds.complete (h : Rounds k name last) (hl : ¬Prefixed last) (ho : Rounds n name other) :
    n ≤ k ∧ Rounds (k - n) other last := by
  induction ho generalizing k
  case none => exact ⟨Nat.zero_le k, h⟩
  case step hs _ hi =>
    cases h
    case none => exact absurd hs.prefixed hl
    case step hs' h =>
      obtain rfl := hs.deterministic hs'
      have ⟨hn, hr⟩ := hi h
      exact ⟨Nat.succ_le_succ hn, by rwa [Nat.add_sub_add_right]⟩

theorem Rounds.drop_eq (h : Rounds (n + 1) name last) :
    ∃ c cs, name.drop (3 * (n + 1)) = c :: cs ∧ last = c.toLower :: cs := by
  induction n generalizing name
  case zero =>
    cases h
    case step hs h =>
      cases h
      cases hs
      case intro c cs _ => exact ⟨c, cs, rfl, rfl⟩
  case succ n hi =>
    cases h
    case step hs h =>
      have ⟨d, ds, hd, hl⟩ := hi h
      cases hs
      case intro c cs _ =>
        -- The letter that became small is dropped in the next round.
        have hc : (c.toLower :: cs).drop (3 * (n + 1)) = cs.drop (3 * n + 2) := rfl
        exact ⟨d, ds, hc ▸ hd, hl⟩

theorem methodName_congr (h : normalize name = normalize other) :
    methodName name = methodName other := by
  rw [methodName, methodName, h]

theorem method_congr {name other : String} (h : normalName name = normalName other) :
    method name = method other := by
  have hn : normalize name.toList = normalize other.toList := by
    rw [← toList_normalName, ← toList_normalName, h]
  rw [method, method, methodName_congr hn]

-- The normal form of a name is reached in a number of rounds that no other sequence of rounds
-- exceeds. It is the name itself, or the name without a multiple of three characters and with a
-- small letter in front. Nothing can be taken from it, it is its own normal form, and if it starts
-- with a small letter, its method stands for it.
theorem normalName_reached (name : String) :
    (∃ k, Rounds k name.toList (normalName name).toList ∧
      (∀ n other, Rounds n name.toList other →
        n ≤ k ∧ Rounds (k - n) other (normalName name).toList) ∧
      (k = 0 → normalName name = name) ∧
      (0 < k → ∃ c cs, name.toList.drop (3 * k) = c :: cs ∧
        (normalName name).toList = c.toLower :: cs)) ∧
    ¬Prefixed (normalName name).toList ∧
    normalName (normalName name) = normalName name ∧
    (normalName name = name ↔ ¬Prefixed name.toList) ∧
    ((∃ c ∈ (normalName name).toList.head?, c.isLower) →
      normalName (method name) = normalName name ∧ method (method name) = method name) := by
  have hn : (normalName name).toList = normalize name.toList := toList_normalName name
  have hp : ¬Prefixed (normalName name).toList := hn ▸ not_prefixed_normalize name.toList
  have ⟨k, hk⟩ := rounds_normalize name.toList
  rw [← hn] at hk
  refine ⟨⟨k, hk, fun n other ho => hk.complete hp ho, ?_, ?_⟩, hp, normalName_normalName name, ?_,
    fun hl => ?_⟩
  · rintro rfl
    exact String.toList_inj.mp hk.eq_of_zero
  · intro h
    obtain ⟨n, rfl⟩ := Nat.exists_eq_succ_of_ne_zero (Nat.ne_of_gt h)
    exact hk.drop_eq
  · rw [← String.toList_inj, hn, normalize_eq_self_iff]
  · rw [hn, head_normalize] at hl
    have hm := (normalName_method_iff name).mpr hl
    exact ⟨hm, method_congr hm⟩

theorem normalName_actActPass :
    (∃ k, 1 ≤ k ∧ Rounds (k - 1) "actPass".toList (normalName "actActPass").toList ∧
      ∃ c cs, "actActPass".toList.drop (3 * k) = c :: cs ∧ (normalName "actActPass").toList =
        c.toLower :: cs) ∧
    (∃ c ∈ (normalName "actActPass").toList.head?, c.isLower) ∧
    normalName (method "actActPass") = normalName "actActPass" ∧ method (method "actActPass") =
      method "actActPass" := by
  have hr : Rounds 1 "actActPass".toList "actPass".toList :=
    .step (.intro (c := 'A') "ctPass".toList (by decide)) .none
  have hl : ∃ c ∈ (normalName "actActPass").toList.head?, c.isLower := by
    rw [toList_normalName, head_normalize]
    exact ⟨'a', rfl, by decide⟩
  have ⟨⟨k, _, complete, _, drop⟩, _, _, _, method⟩ := normalName_reached "actActPass"
  have ⟨hk, ho⟩ := complete 1 _ hr
  exact ⟨⟨k, hk, ho, drop hk⟩, hl, method hl⟩

end StateLint.Action
