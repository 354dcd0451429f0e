import StateLint.Text.Reader

namespace StateLint.Text

-- A shape to be looked for: a reader that is told the character before its place, if there is one.
abbrev Pattern (α : Type) := Option Char → Reader α

def Reader.anywhere {α : Type} (r : Reader α) : Pattern α :=
  fun _ => r

def Reader.atWordStart {α : Type} (r : Reader α) : Pattern α :=
  fun before s => if before.any isWord then none else r s

namespace Pattern

variable {α : Type}

def find? (p : Pattern α) (text : List Char) : Option (α × List Char) :=
  go none text
where
  go (before : Option Char) : List Char → Option (α × List Char)
    | [] => none
    | c :: cs => (p before (c :: cs)).or (go (some c) cs)

def occursIn (p : Pattern α) (text : List Char) : Bool :=
  (p.find? text).isSome

def split (p : Pattern α) (text : List Char) : List Char × List Char :=
  go none text
where
  go (before : Option Char) : List Char → List Char × List Char
    | [] => ([], [])
    | c :: cs =>
      if (p before (c :: cs)).isSome then
        ([], c :: cs)
      else
        let (head, tail) := go (some c) cs
        (c :: head, tail)

-- What is read at every place that fits, even where two such places share text.
def places (p : Pattern α) (text : List Char) : List α :=
  go none text
where
  go (before : Option Char) : List Char → List α
    | [] => []
    | c :: cs => ((p before (c :: cs)).map (·.1)).toList ++ go (some c) cs

-- Cuts a text at the places that fit, read from left to right without overlap: what is read at
-- each, with the text from its end to the next one.
def cut (p : Pattern α) (text : List Char) : List (α × List Char) :=
  (go 0 none text).2
where
  -- `skip` counts the characters that still belong to the place found last.
  go (skip : Nat) (before : Option Char) : List Char → List Char × List (α × List Char)
    | [] => ([], [])
    | c :: cs =>
      match skip with
      | n + 1 => go n (some c) cs
      | 0 =>
        match p before (c :: cs) with
        | some (a, rest) =>
          let (body, others) := go (cs.length - rest.length) (some c) cs
          ([], (a, body) :: others)
        | none =>
          let (body, others) := go 0 (some c) cs
          (c :: body, others)

def findAll (p : Pattern α) (text : List Char) : List α :=
  (p.cut text).map (·.1)

theorem find?_go_shorter {p : Pattern α} (hp : ∀ b, (p b).Advances) {b s a t}
    (h : find?.go p b s = some (a, t)) :
    t.length < s.length := by
  induction s generalizing b with
  | nil => simp [find?.go] at h
  | cons c cs ih =>
    rcases Option.or_eq_some_iff.mp h with h | ⟨-, h⟩
    · exact hp b h
    · exact Nat.lt_succ_of_lt (ih h)

theorem find?_shorter {p : Pattern α} (hp : ∀ b, (p b).Advances) {s a t}
    (h : p.find? s = some (a, t)) :
    t.length < s.length :=
  find?_go_shorter hp h

theorem split_go_append (p : Pattern α) (b : Option Char) (s : List Char) :
    (split.go p b s).1 ++ (split.go p b s).2 = s := by
  induction s generalizing b with
  | nil => rfl
  | cons c cs ih =>
    simp only [split.go]
    split
    · rfl
    · simp [ih]

theorem split_append (p : Pattern α) (s : List Char) : (p.split s).1 ++ (p.split s).2 = s :=
  split_go_append p none s

end Pattern
end StateLint.Text
