import StateLint.Proofs.Text.Numeral
import StateLint.Proofs.Text.Search

namespace StateLint.Text

open Reader

variable {α β : Type} {r : Reader α} {c q : Char} {s t : List Char} {items : List (List Char)}

def quoted (q : Char) (s : List Char) : List Char :=
  q :: (s ++ [q])

theorem quoted_append : quoted q s ++ t = q :: (s ++ q :: t) := by
  simp [quoted]

theorem not_mem_quoted (hs : c ∉ s) (hq : c ≠ q) : c ∉ quoted q s := by
  simp [quoted, hs, hq]

def separated (items : List (List Char)) : List Char :=
  [',', ' '].intercalate items

@[simp]
theorem separated_nil : separated [] = [] :=
  rfl

@[simp]
theorem separated_singleton : separated [s] = s := by
  simp [separated]

@[simp]
theorem separated_cons_cons :
    separated (s :: t :: items) = s ++ ([',', ' '] ++ separated (t :: items)) := by
  simp [separated]

def Ends (t : List Char) : Prop :=
  ∀ c ∈ t.head?, c = ',' ∨ c = ']'

theorem Ends.not_word (h : Ends t) : ∀ c ∈ t.head?, isWord c = false := by
  intro c hc
  cases h c hc <;> subst c <;> rfl

theorem Ends.not_digit (h : Ends t) : ∀ c ∈ t.head?, isDigit c = false := by
  intro c hc
  cases h c hc <;> subst c <;> rfl

def behindLabel : Reader (List Char) := do
  blanks
  literal "=>"
  blanks
  digits

theorem behindLabel_read {d : List Char} (hd : IsDecimal d) (ht : Ends t) :
    behindLabel (' ' :: '=' :: '>' :: ' ' :: (d ++ t)) = some (d, t) :=
  bind_eq_some.mpr ⟨_, _, blanks_cons rfl, bind_eq_some.mpr ⟨_, _, literal_append "=>" _,
    bind_eq_some.mpr ⟨_, _, hd.skip_blanks t, hd.read ht.not_digit⟩⟩⟩

theorem behindLabel_ignores : behindLabel.Ignores ('"' :: t) := by
  apply Ignores.blanks_literal (by simp) (by simp) rfl
  apply Ignores.blanks_bind ?_ rfl rfl
  exact .run1 (by rintro _ ⟨⟩; rfl)

theorem not_mem_separated (h : ∀ i ∈ items, c ∉ i) (hc : c ∉ [',', ' ']) : c ∉ separated items := by
  induction items
  case nil => simp
  case cons i is hi =>
    have first := h i List.mem_cons_self
    have rest := hi fun i hm => h i (List.mem_cons_of_mem _ hm)
    clear hi h
    cases is
    case nil => simpa using first
    case cons j js =>
      rw [separated_cons_cons, List.mem_append, List.mem_append]
      exact fun hm => hm.elim first fun hm => hm.elim hc rest

theorem misses_separated (h : ∀ i ∈ items, ∀ u, Ends u → r.Misses i u)
    (hs : ∀ c, c = ',' ∨ c = ' ' → ∀ cs, r (c :: cs) = none) (ht : Ends t) :
    r.Misses (separated items) t := by
  induction items
  case nil => trivial
  case cons i is hi =>
    have first := h i List.mem_cons_self
    have rest := hi fun i hm => h i (List.mem_cons_of_mem _ hm)
    clear hi h
    cases is
    case nil => simpa using first t ht
    case cons j js =>
      rw [separated_cons_cons, misses_append, misses_append]
      exact ⟨first _ (by simp [Ends]), ⟨hs _ (.inl rfl) _, hs _ (.inr rfl) _, trivial⟩, rest⟩

theorem findAll_separated_cons {a : α} (hn : s ≠ []) (hr : ∀ u, Ends u → r (s ++ u) = some (a, u))
    (hs : ∀ c, c = ',' ∨ c = ' ' → ∀ cs, r (c :: cs) = none) :
    r.anywhere.findAll (separated (s :: items)) = a :: r.anywhere.findAll (separated items) := by
  cases items
  case nil =>
    have hl : r (s ++ []) = some (a, []) := hr [] (by simp [Ends])
    rw [separated_singleton, ← List.append_nil s, Pattern.findAll_of_reads hn hl, separated_nil]
  case cons i is =>
    have hm : r.Misses [',', ' '] (separated (i :: is)) :=
      ⟨hs _ (.inl rfl) _, hs _ (.inr rfl) _, trivial⟩
    rw [separated_cons_cons, Pattern.findAll_of_reads hn (hr _ (by simp [Ends])),
      Pattern.findAll_of_misses hm]

-- The items `w x` of a list are found as the `v x` that they are read as.
theorem findAll_separated {w : β → List Char} {v : β → α} {xs : List β} (hw : ∀ x ∈ xs, w x ≠ [])
    (hr : ∀ x ∈ xs, ∀ u, Ends u → r (w x ++ u) = some (v x, u))
    (hs : ∀ c, c = ',' ∨ c = ' ' → ∀ cs, r (c :: cs) = none) :
    r.anywhere.findAll (separated (xs.map w)) = xs.map v := by
  induction xs
  case nil => rfl
  case cons x xs hi =>
    have rest :=
      hi (fun y hy => hw y (List.mem_cons_of_mem _ hy)) fun y hy => hr y (List.mem_cons_of_mem _ hy)
    rw [List.map_cons,
      findAll_separated_cons (hw x List.mem_cons_self) (hr x List.mem_cons_self) hs, rest,
      List.map_cons]

end StateLint.Text
