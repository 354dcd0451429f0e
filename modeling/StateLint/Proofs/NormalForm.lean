import StateLint.Action

namespace StateLint.Action

-- A name that `normalize` takes `act` from.
def Prefixed (name : List Char) : Prop :=
  ∃ c cs, name = 'a' :: 'c' :: 't' :: c :: cs ∧ c.isUpper

theorem isUpper_iff {c : Char} : c.isUpper ↔ 65 ≤ c.toNat ∧ c.toNat ≤ 90 := by
  show decide (c.val ≥ 65 ∧ c.val ≤ 90) = true ↔ _
  simp [UInt32.le_iff_toNat_le]

theorem isLower_iff {c : Char} : c.isLower ↔ 97 ≤ c.toNat ∧ c.toNat ≤ 122 := by
  show (decide (c.val ≥ 97) && decide (c.val ≤ 122)) = true ↔ _
  simp [UInt32.le_iff_toNat_le]

theorem of_toNat {P : Char → Prop} {first n : Nat} (hp : ∀ i ∈ List.range' first n, P (.ofNat i))
    {c : Char} (hl : first ≤ c.toNat) (hu : c.toNat < first + n) : P c := by
  have := hp c.toNat (List.mem_range'_1.mpr ⟨hl, hu⟩)
  rwa [Char.ofNat_toNat] at this

theorem of_isUpper {P : Char → Prop} (hp : ∀ n ∈ List.range' 65 26, P (.ofNat n)) {c : Char}
    (h : c.isUpper) : P c :=
  have ⟨hl, hu⟩ := isUpper_iff.mp h
  of_toNat hp hl (Nat.lt_succ_of_le hu)

theorem of_isLower {P : Char → Prop} (hp : ∀ n ∈ List.range' 97 26, P (.ofNat n)) {c : Char}
    (h : c.isLower) : P c :=
  have ⟨hl, hu⟩ := isLower_iff.mp h
  of_toNat hp hl (Nat.lt_succ_of_le hu)

theorem toUpper_toLower {c : Char} (h : c.isUpper) : c.toLower.toUpper = c :=
  of_isUpper (P := fun c => c.toLower.toUpper = c) (by decide) h

theorem isLower_toLower {c : Char} (h : c.isUpper) : c.toLower.isLower :=
  of_isUpper (P := fun c => c.toLower.isLower) (by decide) h

theorem toLower_toUpper {c : Char} (h : c.isLower) : c.toUpper.toLower = c :=
  of_isLower (P := fun c => c.toUpper.toLower = c) (by decide) h

theorem isUpper_toUpper {c : Char} (h : c.isLower) : c.toUpper.isUpper :=
  of_isLower (P := fun c => c.toUpper.isUpper) (by decide) h

theorem toUpper_of_not_isLower {c : Char} (h : ¬c.isLower) : c.toUpper = c :=
  have hv : ¬('a'.val ≤ c.val ∧ c.val ≤ 'z'.val) := fun hv =>
    h (Bool.and_eq_true_iff.mpr ⟨decide_eq_true hv.left, decide_eq_true hv.right⟩)
  dif_neg hv

theorem normalize_act {c : Char} (h : c.isUpper) (cs : List Char) :
    normalize ('a' :: 'c' :: 't' :: c :: cs) = normalize (c.toLower :: cs) := by
  rw [normalize]
  simp [h]

theorem normalize_of_not_prefixed {name : List Char} (h : ¬Prefixed name) :
    normalize name = name := by
  rw [normalize.eq_def]
  split
  case h_1 c cs =>
    have hc : ¬c.isUpper := fun hc => h ⟨c, cs, rfl, hc⟩
    simp [hc]
  case h_2 => rfl

theorem prefixed_act {name : List Char} :
    Prefixed ('a' :: 'c' :: 't' :: name) ↔ ∃ c ∈ name.head?, c.isUpper := by
  cases name <;> simp [Prefixed]

theorem length_normalize_le (name : List Char) : (normalize name).length ≤ name.length := by
  induction name using normalize.induct
  case case1 c cs hc hi =>
    rw [normalize_act hc]
    simp only [List.length_cons] at *
    omega
  case case2 c cs hc =>
    have hn : normalize ('a' :: 'c' :: 't' :: c :: cs) = 'a' :: 'c' :: 't' :: c :: cs := by
      rw [normalize, if_neg hc]
    exact Nat.le_of_eq (congrArg List.length hn)
  case case3 name h =>
    have hp : ¬Prefixed name := fun ⟨c, cs, hn, _⟩ => h c cs hn
    exact Nat.le_of_eq (congrArg List.length (normalize_of_not_prefixed hp))

theorem length_normalize_of_prefixed {name : List Char} :
    Prefixed name → (normalize name).length + 3 ≤ name.length
  | ⟨c, cs, hn, hc⟩ => by
    have := length_normalize_le (c.toLower :: cs)
    simp only [hn, normalize_act hc, List.length_cons] at *
    omega

theorem normalize_eq_self_iff {name : List Char} : normalize name = name ↔ ¬Prefixed name := by
  refine ⟨fun h hp => ?_, normalize_of_not_prefixed⟩
  have := length_normalize_of_prefixed hp
  rw [h] at this
  omega

theorem length_methodName (name : List Char) :
    (methodName name).length = (normalize name).length + 3 := by
  unfold methodName
  split <;> simp_all

theorem not_prefixed_normalize (name : List Char) : ¬Prefixed (normalize name) := by
  induction name using normalize.induct
  case case1 c cs hc hi => rwa [normalize_act hc]
  case case2 c cs hc =>
    rw [normalize, if_neg hc, prefixed_act]
    simpa using hc
  case case3 name h =>
    have hp : ¬Prefixed name := fun ⟨c, cs, hn, _⟩ => h c cs hn
    rwa [normalize_of_not_prefixed hp]

-- What `normalize` leaves starts with a small letter exactly if the name does: a prefix does, and
-- so does what is left behind it.
theorem head_normalize (name : List Char) :
    (∃ c ∈ (normalize name).head?, c.isLower) ↔ ∃ c ∈ name.head?, c.isLower := by
  induction name using normalize.induct
  case case1 c cs hc hi =>
    have hl := isLower_toLower hc
    have ha : 'a'.isLower := by decide
    rw [normalize_act hc, hi]
    simp [hl, ha]
  case case2 c cs hc => rw [normalize, if_neg hc]
  case case3 name h =>
    have hp : ¬Prefixed name := fun ⟨c, cs, hn, _⟩ => h c cs hn
    rw [normalize_of_not_prefixed hp]

theorem normalize_normalize (name : List Char) : normalize (normalize name) = normalize name :=
  normalize_of_not_prefixed (not_prefixed_normalize name)

theorem prefixed_methodName {name : List Char} (h : ∃ c ∈ name.head?, c.isLower) :
    Prefixed (methodName name) := by
  obtain ⟨c, hc, hl⟩ := (head_normalize name).mpr h
  obtain ⟨cs, hn⟩ := List.head?_eq_some_iff.mp hc
  rw [methodName, hn]
  exact ⟨c.toUpper, cs, rfl, isUpper_toUpper hl⟩

theorem normalize_methodName_iff (name : List Char) :
    normalize (methodName name) = normalize name ↔ ∃ c ∈ name.head?, c.isLower := by
  rw [← head_normalize name]
  constructor
  case mp =>
    intro h
    -- The method is longer than the normal form, so it has a prefix to lose.
    have hp : Prefixed (methodName name) := Classical.not_not.mp fun hp => by
      have := length_methodName name
      rw [normalize_of_not_prefixed hp] at h
      rw [← h] at this
      omega
    obtain ⟨c, cs, hm, _⟩ := hp
    rw [← h, head_normalize, hm]
    exact ⟨'a', rfl, by decide⟩
  case mpr =>
    intro ⟨c, hc, hl⟩
    obtain ⟨cs, hn⟩ := List.head?_eq_some_iff.mp hc
    have hm : methodName name = 'a' :: 'c' :: 't' :: c.toUpper :: cs := by rw [methodName, hn]
    rw [hm, normalize_act (isUpper_toUpper hl), toLower_toUpper hl, ← hn, normalize_normalize]

theorem toList_normalName (name : String) : (normalName name).toList = normalize name.toList :=
  String.toList_ofList

theorem normalName_normalName (name : String) : normalName (normalName name) = normalName name := by
  rw [← String.toList_inj, toList_normalName, toList_normalName, normalize_normalize]

theorem normalName_method_iff (name : String) :
    normalName (method name) = normalName name ↔ ∃ c ∈ name.toList.head?, c.isLower := by
  rw [← normalize_methodName_iff]
  simp only [normalName, method, String.toList_ofList, String.ofList_inj]

-- What does not start with a small letter is the normal form of nothing else.
theorem normalName_eq_iff {name normal : String}
    (h : normal.toList.head?.any Char.isLower = false) :
    normalName name = normal ↔ name = normal := by
  have small {l : List Char} : Prefixed l → ∃ c ∈ l.head?, c.isLower
    | ⟨_, _, hl, _⟩ => ⟨'a', by simp [hl], by decide⟩
  have h : ¬∃ c ∈ normal.toList.head?, c.isLower := by
    intro ⟨c, hc, hl⟩
    simp [Option.mem_def.mp hc, hl] at h
  rw [← String.toList_inj, ← String.toList_inj, toList_normalName]
  constructor
  case mp =>
    intro hn
    have hp : ¬Prefixed name.toList := fun hp => h (hn ▸ (head_normalize _).mpr (small hp))
    rwa [normalize_of_not_prefixed hp] at hn
  case mpr =>
    intro hn
    rw [hn, normalize_of_not_prefixed fun hp => h (small hp)]

-- The method that implements an action declared by a method `act…`, found again from what the
-- declaration keeps of its name. Of a name with two prefixes it is another one.
theorem methodName_toLower_iff {c : Char} (hc : c.isUpper) (cs : List Char) :
    methodName (c.toLower :: cs) = 'a' :: 'c' :: 't' :: c :: cs ↔ ¬Prefixed (c.toLower :: cs) := by
  constructor
  case mp =>
    intro h hp
    have hn := length_normalize_of_prefixed hp
    have hm := length_methodName (c.toLower :: cs)
    simp only [h, List.length_cons] at *
    omega
  case mpr =>
    intro hp
    simp [methodName, normalize_of_not_prefixed hp, toUpper_toLower hc]

end StateLint.Action
