import Mathlib.Tactic.SplitIfs

namespace StateLint.Text.Utf8

def bytes (s : String) : List UInt8 :=
  s.toUTF8.data.toList

theorem bytes_eq (s : String) : bytes s = s.toList.flatMap String.utf8EncodeChar := by
  rw [bytes, String.toUTF8_eq_toByteArray, ← String.utf8Encode_toList, List.utf8Encode,
    List.toList_data_toByteArray]

def following (n : Nat) : Nat :=
  if n ≤ 0x7f then 0 else if n ≤ 0x7ff then 1 else if n ≤ 0xffff then 2 else 3

def firstByte (n : Nat) : Nat :=
  if n ≤ 0x7f then n
  else if n ≤ 0x7ff then n / 64 % 0x20 + 0xc0
  else if n ≤ 0xffff then n / 4096 % 0x10 + 0xe0
  else n / 262144 % 0x08 + 0xf0

-- The last digits of a number in base 64, a byte for each.
def lowDigits : Nat → Nat → List UInt8
  | 0, _ => []
  | k + 1, n => lowDigits k (n / 64) ++ [UInt8.ofNat (n % 64 + 0x80)]

theorem utf8EncodeChar_eq (c : Char) :
    String.utf8EncodeChar c =
      UInt8.ofNat (firstByte c.val.toNat) :: lowDigits (following c.val.toNat) c.val.toNat := by
  simp only [String.utf8EncodeChar, firstByte, following]
  split_ifs <;> simp [lowDigits, Nat.div_div_eq_div_mul]

theorem val_lt (c : Char) : c.val.toNat < 0x110000 := by
  have h := c.valid
  simp only [UInt32.isValidChar, Nat.isValidChar] at h
  omega

theorem firstByte_lt {n : Nat} : firstByte n < 256 := by
  unfold firstByte
  split_ifs <;> omega

theorem cons_lt_cons {m n : Nat} {cs ds : List UInt8} (hn : n < 256) (h : m < n) :
    UInt8.ofNat m :: cs < UInt8.ofNat n :: ds := by
  refine .rel ?_
  rw [UInt8.lt_iff_toNat_lt, UInt8.toNat_ofNat', UInt8.toNat_ofNat']
  omega

def highPart : Nat → Nat → Nat
  | 0, n => n
  | k + 1, n => highPart k (n / 64)

theorem lowDigits_lt {k m n : Nat} (h : m < n) (cs ds : List UInt8) :
    highPart k m < highPart k n ∨ highPart k m = highPart k n ∧
      lowDigits k m ++ cs < lowDigits k n ++ ds := by
  induction k generalizing m n cs ds with
  | zero => exact .inl h
  | succ k ih =>
    simp only [highPart, lowDigits, List.append_assoc]
    rcases (by omega : m / 64 < n / 64 ∨ m / 64 = n / 64 ∧ m % 64 < n % 64) with hq | ⟨hq, hr⟩
    · exact ih hq _ _
    · refine .inr ⟨by rw [hq], ?_⟩
      rw [hq]
      exact List.append_left_lt (cons_lt_cons (by omega) (by omega))

theorem firstByte_lt_or_eq {m n : Nat} (hn : n < 0x110000) (h : m < n) :
    firstByte m < firstByte n ∨
      firstByte m = firstByte n ∧ following m = following n ∧ highPart (following n) m =
        highPart (following n) n := by
  unfold firstByte following
  split_ifs <;> simp only [highPart, true_and, false_and, and_false, or_false] <;> omega

theorem utf8EncodeChar_append_lt {c d : Char} (h : c < d) (cs ds : List UInt8) :
    String.utf8EncodeChar c ++ cs < String.utf8EncodeChar d ++ ds := by
  have hlt : c.val.toNat < d.val.toNat := h
  rw [utf8EncodeChar_eq, utf8EncodeChar_eq, List.cons_append, List.cons_append]
  rcases firstByte_lt_or_eq (val_lt d) hlt with hf | ⟨hf, hk, hq⟩
  · exact cons_lt_cons firstByte_lt hf
  · rw [hf, hk]
    exact .cons ((lowDigits_lt hlt cs ds).resolve_left (hq ▸ Nat.lt_irrefl _)).2

theorem flatMap_utf8EncodeChar_lt {cs ds : List Char} (h : List.Lex (· < ·) cs ds) :
    cs.flatMap String.utf8EncodeChar < ds.flatMap String.utf8EncodeChar := by
  induction h with
  | @nil d ds =>
    rw [List.flatMap_cons, utf8EncodeChar_eq]
    exact .nil
  | rel h => exact utf8EncodeChar_append_lt h _ _
  | cons _ ih => exact List.append_left_lt ih

theorem bytes_lt {s t : String} (h : s < t) : bytes s < bytes t := by
  rw [bytes_eq, bytes_eq]
  exact flatMap_utf8EncodeChar_lt h

end StateLint.Text.Utf8
