import StateLint.Text.CharClass

namespace StateLint.Text

-- Reads from the start of a text: what it read and the text that follows, or nothing if the text
-- has another shape.
abbrev Reader := StateT (List Char) Option

namespace Reader

variable {α β : Type}

@[inline]
def literal (w : String) : Reader Unit :=
  fun s => (w.toList.isPrefixOf? s).map ((), ·)

def one (p : Char → Bool) : Reader Char
  | c :: cs => if p c then some (c, cs) else none
  | [] => none

def run (p : Char → Bool) : Reader (List Char) :=
  fun s => some (s.takeWhile p, s.dropWhile p)

def run1 (p : Char → Bool) : Reader (List Char)
  | c :: cs => if p c then run p (c :: cs) else none
  | [] => none

def blanks : Reader Unit :=
  fun s => some ((), s.dropWhile isBlank)

def blanks1 : Reader Unit :=
  fun s => (run1 isBlank s).map (((), ·.2))

def name : Reader (List Char) :=
  run1 isWord

def digits : Reader (List Char) :=
  run1 isDigit

def quote : Reader Char :=
  one fun c => c == '\'' || c == '"'

def quotedName : Reader (List Char) := do
  let _ ← quote
  let n ← name
  let _ ← quote
  return n

-- The end of a word: reads nothing, and refuses if a word character follows.
def wordEnd : Reader Unit :=
  fun s => if s.head?.any isWord then none else some ((), s)

def skipAtMost (r : Reader α) : Nat → Reader α
  | 0, s => r s
  | _ + 1, [] => r []
  | n + 1, c :: cs => (r (c :: cs)).or (skipAtMost r n cs)

def skipFarthest (r : Reader α) : Nat → Reader α
  | 0, s => r s
  | _ + 1, [] => r []
  | n + 1, c :: cs => (skipFarthest r n cs).or (r (c :: cs))

-- The text up to the nearest place where `r` reads. What `r` reads is passed over.
def upTo (r : Reader α) : Reader (List Char)
  | [] => (r []).map fun x => ([], x.2)
  | c :: cs =>
    match r (c :: cs) with
    | some (_, rest) => some ([], rest)
    | none => (upTo r cs).map fun x => (c :: x.1, x.2)

def LeavesEnd (r : Reader α) : Prop :=
  ∀ ⦃s a t⦄, r s = some (a, t) → t <:+ s

def Advances (r : Reader α) : Prop :=
  ∀ ⦃s a t⦄, r s = some (a, t) → t.length < s.length

theorem bind_eq_some {r : Reader α} {f : α → Reader β} {s t : List Char} {b : β} :
    (r >>= f) s = some (b, t) ↔ ∃ a u, r s = some (a, u) ∧ f a u = some (b, t) := by
  show (r s).bind (fun x => f x.1 x.2) = _ ↔ _
  simp [Option.bind_eq_some_iff]

theorem pure_eq_some {a b : α} {s t : List Char} :
    (pure a : Reader α) s = some (b, t) ↔ a = b ∧ s = t := by
  show some (a, s) = some (b, t) ↔ _
  simp

theorem LeavesEnd.pure (a : α) : LeavesEnd (pure a : Reader α) := by
  intro s b t h
  exact (pure_eq_some.mp h).2 ▸ List.suffix_refl s

theorem LeavesEnd.bind {r : Reader α} {f : α → Reader β} (hr : LeavesEnd r)
    (hf : ∀ a, LeavesEnd (f a)) :
    LeavesEnd (r >>= f) := by
  intro s b t h
  obtain ⟨a, u, h₁, h₂⟩ := bind_eq_some.mp h
  exact (hf a h₂).trans (hr h₁)

theorem Advances.bind {r : Reader α} {f : α → Reader β} (hr : Advances r)
    (hf : ∀ a, LeavesEnd (f a)) :
    Advances (r >>= f) := by
  intro s b t h
  obtain ⟨a, u, h₁, h₂⟩ := bind_eq_some.mp h
  exact Nat.lt_of_le_of_lt (hf a h₂).length_le (hr h₁)

theorem isPrefixOf?_cons (c d : Char) (w s : List Char) :
    (c :: w).isPrefixOf? (d :: s) = if c == d then w.isPrefixOf? s else none :=
  rfl

theorem isPrefixOf?_eq_some {w s t : List Char} : w.isPrefixOf? s = some t ↔ s = w ++ t := by
  induction w generalizing s with
  | nil => exact Option.some_inj
  | cons c w ih =>
    cases s with
    | nil => exact ⟨nofun, nofun⟩
    | cons d s =>
      rw [isPrefixOf?_cons]
      by_cases h : c = d
      · simp [h, ih]
      · simp [h, Ne.symm h]

theorem literal_eq_some {w : String} {s t : List Char} {u : Unit} :
    literal w s = some (u, t) ↔ s = w.toList ++ t := by
  rw [← isPrefixOf?_eq_some]
  simp only [literal, Option.map_eq_some_iff, Prod.mk.injEq, true_and, exists_eq_right]

theorem literal_leavesEnd (w : String) : LeavesEnd (literal w) := by
  intro s u t h
  exact literal_eq_some.mp h ▸ List.suffix_append ..

theorem blanks_leavesEnd : LeavesEnd blanks := by
  intro s u t h
  cases h
  exact List.dropWhile_suffix _

theorem run_leavesEnd (p : Char → Bool) : LeavesEnd (run p) := by
  intro s u t h
  cases h
  exact List.dropWhile_suffix _

theorem run1_eq_some {p : Char → Bool} {s w t : List Char} :
    run1 p s = some (w, t) ↔ w ≠ [] ∧ w = s.takeWhile p ∧ t = s.dropWhile p := by
  cases s with
  | nil => simp +contextual [run1]
  | cons c cs =>
    by_cases h : p c
    · simp only [run1, h, run, ite_true, Option.some.injEq, Prod.mk.injEq,
        List.takeWhile_cons_of_pos, List.dropWhile_cons_of_pos]
      constructor
      · rintro ⟨rfl, rfl⟩
        simp
      · rintro ⟨-, rfl, rfl⟩
        simp
    · simp +contextual [run1, h]

theorem run1_leavesEnd (p : Char → Bool) : LeavesEnd (run1 p) := by
  intro s w t h
  exact (run1_eq_some.mp h).2.2 ▸ List.dropWhile_suffix _

theorem run1_advances (p : Char → Bool) : Advances (run1 p) := by
  intro s w t h
  obtain ⟨hw, rfl, rfl⟩ := run1_eq_some.mp h
  have := congrArg List.length (List.takeWhile_append_dropWhile (p := p) (l := s))
  have := List.length_pos_iff.mpr hw
  simp only [List.length_append] at *
  omega

end Reader
end StateLint.Text
