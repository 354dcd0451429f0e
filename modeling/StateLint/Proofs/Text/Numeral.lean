import StateLint.Proofs.Text.CharClass
import StateLint.Proofs.Text.Reader
import StateLint.Text.Basic

namespace StateLint.Text

open Reader

def numeral (n : UInt32) : List Char :=
  (toString n).toList

theorem numeral_eq (n : UInt32) : numeral n = Nat.toDigits 10 n.toNat :=
  Nat.toList_repr

theorem numeral_ne_nil (n : UInt32) : numeral n ≠ [] := by
  rw [numeral_eq]
  exact Nat.toDigits_ne_nil

theorem ascii_of_isDigit {c : Char} (h : c.isDigit) : c.toNat < 0x80 := by
  simp only [Char.isDigit, Bool.and_eq_true, decide_eq_true_eq, ge_iff_le,
    UInt32.le_iff_toNat_le] at h
  exact Nat.lt_of_le_of_lt h.right (by decide)

theorem isDigit_of_isDigit {c : Char} (h : c.isDigit) : isDigit c := by
  rwa [isDigit_ascii (ascii_of_isDigit h)]

theorem isDigit_of_mem_numeral {n : UInt32} {c : Char} (h : c ∈ numeral n) : c.isDigit := by
  rw [numeral_eq] at h
  exact Nat.isDigit_of_mem_toDigits (by decide) (by decide) h

theorem isDigit_numeral (n : UInt32) : ∀ c ∈ numeral n, isDigit c :=
  fun _ hc => isDigit_of_isDigit (isDigit_of_mem_numeral hc)

theorem isWord_numeral (n : UInt32) : ∀ c ∈ numeral n, isWord c := by
  intro c hc
  have hd := isDigit_of_mem_numeral hc
  rw [isWord_ascii (ascii_of_isDigit hd)]
  simp [Char.isAlphanum, hd]

structure IsDecimal (d : List Char) : Prop where
  nonempty : d ≠ []
  digits   : ∀ c ∈ d, c.isDigit

namespace IsDecimal

variable {d t : List Char} (h : IsDecimal d)
include h

theorem not_mem {c : Char} (hc : c.isDigit = false) : c ∉ d := by
  intro hm
  simp [h.digits c hm] at hc

theorem skip_blanks (t : List Char) : blanks (' ' :: (d ++ t)) = some ((), d ++ t) := by
  have ⟨c, cs, hc⟩ := List.exists_cons_of_ne_nil h.nonempty
  have hd := h.digits c (by simp [hc])
  rw [hc]
  exact blanks_cons (not_isBlank_of_isDigit (isDigit_of_isDigit hd))

theorem read (ht : ∀ c ∈ t.head?, isDigit c = false) : Reader.digits (d ++ t) = some (d, t) :=
  run1_append h.nonempty (fun c hc => isDigit_of_isDigit (h.digits c hc)) ht

end IsDecimal

theorem isDecimal_numeral (n : UInt32) : IsDecimal (numeral n) :=
  ⟨numeral_ne_nil n, fun _ => isDigit_of_mem_numeral⟩

theorem not_mem_numeral {n : UInt32} {c : Char} (h : c.isDigit = false) : c ∉ numeral n :=
  (isDecimal_numeral n).not_mem h

theorem exists_cons_numeral (n : UInt32) (t : List Char) :
    ∃ c cs, numeral n ++ t = c :: cs ∧ c.isDigit := by
  obtain ⟨c, cs, hc⟩ := List.exists_cons_of_ne_nil (numeral_ne_nil n)
  exact ⟨c, cs ++ t, by rw [hc, List.cons_append], isDigit_of_mem_numeral (n := n) (by simp [hc])⟩

theorem blanks_numeral (n : UInt32) (t : List Char) :
    blanks (' ' :: (numeral n ++ t)) = some ((), numeral n ++ t) :=
  (isDecimal_numeral n).skip_blanks t

theorem literal_numeral {l : String} {d : Char} (hl : l.toList = [d]) (hd : d.isDigit = false)
    (n : UInt32) (t : List Char) : literal l (numeral n ++ t) = none := by
  obtain ⟨c, cs, hc, hn⟩ := exists_cons_numeral n t
  rw [hc]
  refine literal_cons hl ?_
  rintro rfl
  simp [hn] at hd

theorem digits_numeral {n : UInt32} {t : List Char} (h : ∀ c ∈ t.head?, isDigit c = false) :
    digits (numeral n ++ t) = some (numeral n, t) :=
  (isDecimal_numeral n).read h

theorem number?_numeral (n : UInt32) : number? (numeral n) = some n := by
  have hf : (numeral n).foldl (fun n c => 10 * n + (c.toNat - '0'.toNat)) 0 = n.toNat := by
    rw [numeral_eq]
    exact Nat.ofDigitChars_eq_foldl.symm.trans Nat.ofDigitChars_ten_toDigits
  have hd : (numeral n).all Char.isDigit :=
    List.all_eq_true.mpr fun c hc => isDigit_of_mem_numeral hc
  have hn : n.toNat < UInt32.size := n.toNat_lt
  simp only [number?, hf, hd, hn, List.isEmpty_eq_false_iff.mpr (numeral_ne_nil n)]
  simp

theorem numeral_inj {m n : UInt32} (h : numeral m = numeral n) : m = n := by
  have hn := congrArg number? h
  rw [number?_numeral, number?_numeral] at hn
  exact Option.some.inj hn

theorem eq_of_last_numeral {c : Char} {u v t : List Char} {m n : UInt32} (hc : isWord c = false)
    (h : u ++ c :: numeral m ++ t = v ++ c :: numeral n ++ t) : m = n :=
  numeral_inj (eq_of_last_word (isWord_numeral m) (isWord_numeral n) hc hc
    (List.append_cancel_right h)).right

end StateLint.Text
