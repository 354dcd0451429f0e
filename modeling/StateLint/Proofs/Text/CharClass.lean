import StateLint.Text.CharClass

namespace StateLint.Text

def wideBlanks : List Nat :=
  [0x85, 0xA0, 0x1680, 0x2000, 0x2001, 0x2002, 0x2003, 0x2004, 0x2005, 0x2006, 0x2007, 0x2008,
    0x2009, 0x200A, 0x2028, 0x2029, 0x202F, 0x205F, 0x3000]

theorem mem_wideBlanks {c : Char} (h : isBlank c) (hc : ¬c.toNat < 0x80) :
    c.toNat ∈ wideBlanks := by
  simp only [isBlank, Bool.or_eq_true, Bool.and_eq_true, beq_iff_eq, decide_eq_true_eq] at h
  simp only [wideBlanks, List.mem_cons, List.not_mem_nil, or_false]
  omega

theorem wideBlanks_not_digits : ∀ n ∈ wideBlanks, digitRanges.contains n = false := by
  decide +kernel

theorem Ranges.exists_of_go {ranges : Ranges} {n lo hi : Nat} (h : contains.go ranges n lo hi) :
    ∃ r ∈ ranges, r.1 ≤ n ∧ n ≤ r.2 := by
  fun_induction contains.go ranges n lo hi
  case case1 => contradiction
  case case2 hi => exact hi h
  case case3 hi => exact hi h
  case case4 first last hm hf hl =>
    exact ⟨(first, last), Array.mem_of_getElem? hm, Nat.not_lt.mp hf, Nat.not_lt.mp hl⟩
  case case5 => contradiction

-- The table is gone through once; halving it anew for each blank takes far longer to check.
theorem wordRanges_not_blank : ∀ r ∈ wordRanges.toList, ∀ n ∈ wideBlanks, n < r.1 ∨ r.2 < n := by
  have h : wordRanges.toList.all fun r => wideBlanks.all fun n => n.blt r.1 || r.2.blt n := by
    simp only [wordRanges, Array.toList_append, List.all_append]
    decide +kernel
  simpa only [List.all_eq_true, Bool.or_eq_true, Nat.blt_eq] using h

theorem wideBlanks_not_words {n : Nat} (hn : n ∈ wideBlanks) : wordRanges.contains n = false := by
  refine Bool.eq_false_iff.mpr fun h => ?_
  have ⟨r, hr, hl, hu⟩ := Ranges.exists_of_go h
  have := wordRanges_not_blank r hr.val n hn
  omega

theorem isBlank_ascii {c : Char} (h : isBlank c) (hc : c.toNat < 0x80) : c.toNat ≤ 32 := by
  simp only [isBlank, Bool.or_eq_true, Bool.and_eq_true, beq_iff_eq, decide_eq_true_eq] at h
  omega

theorem not_isDigit_of_isBlank {c : Char} (h : isBlank c) : isDigit c = false := by
  by_cases hc : c.toNat < 0x80
  case pos =>
    have := isBlank_ascii h hc
    simp [isDigit_ascii hc, Char.isDigit, UInt32.le_iff_toNat_le]
    omega
  case neg => simp [isDigit, hc, wideBlanks_not_digits _ (mem_wideBlanks h hc)]

theorem not_isBlank_of_isDigit {c : Char} (h : isDigit c) : isBlank c = false := by
  cases hb : isBlank c
  case false => rfl
  case true => simp [not_isDigit_of_isBlank hb] at h

theorem not_isWord_of_isBlank {c : Char} (h : isBlank c) : isWord c = false := by
  by_cases hc : c.toNat < 0x80
  case pos =>
    have hn : ∀ n ≤ 32, isWord (.ofNat n) = false := by decide
    exact c.ofNat_toNat ▸ hn c.toNat (isBlank_ascii h hc)
  case neg => simp [isWord, hc, wideBlanks_not_words (mem_wideBlanks h hc)]

theorem not_isBlank_of_isWord {c : Char} (h : isWord c) : isBlank c = false := by
  cases hb : isBlank c
  case false => rfl
  case true => simp [not_isWord_of_isBlank hb] at h

theorem not_mem_of_isBlank {s : List Char} {c : Char} (h : ∀ c ∈ s, isBlank c)
    (hc : isBlank c = false) : c ∉ s := by
  intro hm
  simp [h c hm] at hc

end StateLint.Text
