import StateLint.Proofs.Migration
import StateLint.Proofs.ServerScript.Method
import StateLint.Proofs.ServerScript.Return

namespace StateLint

open Text Reader ServerScript

variable {α : Type} {r : Reader α} {s t u p params body : List Char} {n : Nat} {path : String}

namespace Text.Reader

theorem skipAtMost_isSome : (skipAtMost r n s).isSome ↔ ∃ i ≤ n, (r (s.drop i)).isSome := by
  induction n generalizing s
  case zero => simp [skipAtMost]
  case succ n hi =>
    cases s
    case nil =>
      simp only [skipAtMost, List.drop_nil]
      exact ⟨fun h => ⟨0, Nat.zero_le _, h⟩, fun ⟨_, _, h⟩ => h⟩
    case cons c s =>
      simp only [skipAtMost, Option.isSome_or, Bool.or_eq_true, hi]
      constructor
      case mp =>
        intro h
        cases h
        case inl h => exact ⟨0, Nat.zero_le _, h⟩
        case inr h =>
          have ⟨i, hi, h⟩ := h
          exact ⟨i + 1, Nat.succ_le_succ hi, h⟩
      case mpr =>
        intro ⟨i, hi, h⟩
        cases i
        case zero => exact .inl h
        case succ i => exact .inr ⟨i, Nat.le_of_succ_le_succ hi, h⟩

end Text.Reader

namespace ServerScript

theorem semicolon_mem_of_returned (h : (returned s).isSome) : ';' ∈ s := by
  have ⟨_, h⟩ := Option.isSome_iff_exists.mp h
  have ⟨w, t, _, hs⟩ := returned_shape h
  simp [hs]

theorem returned_append (h : ';' ∈ s) (t : List Char) :
    returned (s ++ t) = (returned s).map fun x => (x.1, x.2 ++ t) := by
  obtain ⟨a, b, rfl, ha⟩ := List.eq_append_cons_of_mem h
  by_cases hr : "return".toList <+: a
  case pos =>
    obtain ⟨w, rfl⟩ := hr
    have hw : ';' ∉ w := fun hm => ha (List.mem_append_right _ hm)
    simp only [List.append_assoc, List.cons_append, returned_statement hw]
    split <;> rfl
  case neg =>
    have hn (u : List Char) : returned (a ++ ';' :: u) = none := by
      refine Option.eq_none_iff_forall_ne_some.mpr fun x hx => hr ?_
      have ⟨w, v, _, hv⟩ := returned_shape hx
      have hp : "return".toList <+: a ++ ';' :: u := ⟨w ++ ';' :: v, hv.symm⟩
      exact (prefix_append_cons (by decide)).mp hp
    rw [List.append_assoc, List.cons_append, hn, hn]
    rfl

theorem skipAtMost_returned_append {x : List Char × List Char}
    (h : skipAtMost returned n s = some x) (t : List Char) :
    skipAtMost returned n (s ++ t) = some (x.1, x.2 ++ t) := by
  induction n generalizing s
  case zero =>
    have hs : returned s = some x := h
    show returned (s ++ t) = _
    rw [returned_append (semicolon_mem_of_returned (by rw [hs]; rfl)), hs]
    rfl
  case succ n hi =>
    cases s
    case nil =>
      have hs : returned [] = some x := h
      have := semicolon_mem_of_returned (s := []) (by rw [hs]; rfl)
      contradiction
    case cons c s =>
      simp only [List.cons_append, skipAtMost, Option.or_eq_some_iff] at h ⊢
      rw [← List.cons_append]
      obtain h | ⟨hn, h⟩ := h
      · rw [returned_append (semicolon_mem_of_returned (by rw [h]; rfl)), h]
        exact .inl rfl
      · have ⟨i, _, hs⟩ := skipAtMost_isSome.mp (Option.isSome_iff_exists.mpr ⟨x, h⟩)
        have hm : ';' ∈ s := List.mem_of_mem_drop (semicolon_mem_of_returned hs)
        rw [returned_append (List.mem_cons_of_mem c hm), hn]
        exact .inr ⟨rfl, hi h⟩

def OpenReturn (s : List Char) : Prop :=
  ∃ b u, isBlank b ∧ ';' ∉ u ∧ s = "return".toList ++ b :: u

-- Whether the text of a method settles what it returns, whatever follows: either it has a return
-- statement that starts among its first characters, or it has more of them and no return statement
-- starts there that could end later.
def Settled (method : List Char) : Prop :=
  (∃ i ≤ 500, ∃ value, Returns value (method.drop i)) ∨
    (500 < method.length ∧ ∀ i ≤ 500, ¬OpenReturn (method.drop i))

theorem settled_iff {m : List Char} :
    Settled m ↔ (skipAtMost returned 500 m).isSome ∨
      (500 < m.length ∧ ∀ i ≤ 500, ¬OpenReturn (m.drop i)) := by
  simp only [Settled, exists_returns_iff, skipAtMost_isSome]

theorem openReturn_of_returned {x : List Char × List Char} (hs : ';' ∉ s)
    (h : returned (s ++ '\x7d' :: t) = some x) :
    OpenReturn (s ++ ['\x7d']) := by
  have ⟨w, hw, _, ⟨_, hb⟩, _⟩ := returned_eq_some.mp h
  have hp : "return".toList <+: s ++ '\x7d' :: t := ⟨w ++ ';' :: x.2, hw.symm⟩
  obtain ⟨u, rfl⟩ := (prefix_append_cons (by decide)).mp hp
  rw [List.append_assoc, List.append_cancel_left_eq] at hw
  match u, w, hw with
  | _, [], _ => contradiction
  | [], c :: w, hw =>
    obtain rfl : '\x7d' = c := (List.cons.inj hw).left
    contradiction
  | c :: u, d :: w, hw =>
    obtain rfl : c = d := (List.cons.inj hw).left
    refine ⟨c, u ++ ['\x7d'], hb, ?_, by rw [List.append_assoc, List.cons_append]⟩
    simp_all

-- Where a method ends with a brace, what follows it can only end a return statement that is open
-- there.
theorem returned_append_brace (ho : ¬OpenReturn (s ++ ['\x7d']))
    (hn : returned (s ++ ['\x7d']) = none) (t : List Char) :
    returned (s ++ '\x7d' :: t) = none := by
  by_cases hs : ';' ∈ s
  case pos =>
    have hm : ';' ∈ s ++ ['\x7d'] := List.mem_append_left _ hs
    simpa [hn] using returned_append hm t
  case neg =>
    exact Option.eq_none_iff_forall_ne_some.mpr fun x hx => ho (openReturn_of_returned hs hx)

theorem returns_append_of_open (h : OpenReturn s) :
    ∃ value, Returns value (s ++ "return 0;".toList) := by
  obtain ⟨b, u, hb, hu, rfl⟩ := h
  refine ⟨u ++ "return 0".toList, by simp, ?_, [b], [], by simp, by simpa using hb, ?_⟩
  · rw [List.mem_append]
    exact fun hm => hm.elim hu (by decide)
  · simp

theorem skipAtMost_of_settled (h : Settled (s ++ ['\x7d'])) (t : List Char) :
    (skipAtMost returned 500 (s ++ '\x7d' :: t)).map (·.1) =
      (skipAtMost returned 500 (s ++ ['\x7d'])).map (·.1) := by
  cases hm : skipAtMost returned 500 (s ++ ['\x7d'])
  case some x =>
    have := skipAtMost_returned_append hm t
    rw [List.append_assoc, List.singleton_append] at this
    rw [this]
    rfl
  case none =>
    have ⟨hl, ho⟩ := (settled_iff.mp h).resolve_left (by simp [hm])
    rw [← Option.not_isSome_iff_eq_none, skipAtMost_isSome] at hm
    have hn : skipAtMost returned 500 (s ++ '\x7d' :: t) = none := by
      rw [← Option.not_isSome_iff_eq_none, skipAtMost_isSome]
      intro ⟨i, hi, hr⟩
      have hs : i ≤ s.length := by
        rw [List.length_append, List.length_singleton] at hl
        omega
      have ho := ho i hi
      have hn : returned ((s ++ ['\x7d']).drop i) = none :=
        Option.not_isSome_iff_eq_none.mp fun h => hm ⟨i, hi, h⟩
      rw [List.drop_append_of_le_length hs] at ho hn hr
      rw [returned_append_brace ho hn t] at hr
      contradiction
    rw [hn]

-- What is not settled has no return statement, and gets one from what follows.
theorem skipAtMost_of_not_settled (h : ¬Settled s) :
    skipAtMost returned 500 s = none ∧
      (skipAtMost returned 500 (s ++ "return 0;".toList)).isSome := by
  have ⟨hn, ho⟩ := not_or.mp (mt settled_iff.mpr h)
  refine ⟨Option.not_isSome_iff_eq_none.mp hn, skipAtMost_isSome.mpr ?_⟩
  simp only [← exists_returns_iff]
  by_cases hl : 500 < s.length
  case pos =>
    have ⟨i, hi, ho⟩ : ∃ i ≤ 500, OpenReturn (s.drop i) := by simpa [hl] using ho
    refine ⟨i, hi, ?_⟩
    rw [List.drop_append_of_le_length (by omega)]
    exact returns_append_of_open ho
  case neg =>
    refine ⟨s.length, Nat.not_lt.mp hl, ['0'], ?_⟩
    rw [List.drop_left]
    exact ⟨by simp, by decide, [' '], [], by simp, by simp [isBlank], rfl⟩

def setupText (params body : List Char) : List Char :=
  '(' :: (params ++ ')' :: ' ' :: '\x7b' :: body)

def setupScript (path : String) (before params body after : List Char) : SourceFile :=
  ⟨path, .ofList (before ++
    (declaration "setupNewGame" ++ (setupText params body ++ '\x7d' :: after)))⟩

theorem setupReturn?_eq (hp : ¬"setupNewGame".toList <:+: p) (ht : ¬"setupNewGame".toList <:+: t) :
    setupReturn? (.ofList (p ++ (declaration "setupNewGame" ++ t))) =
      ((skipAtMost returned 500 t).map (·.1)).map .ofList := by
  have hs : setupReturn = methodNamed "setupNewGame" (skipAtMost returned 500) := rfl
  have hn : IsName "setupNewGame".toList := by decide
  rw [setupReturn?, String.toList_ofList, hs, find?_methodNamed hn (by decide) hp,
    find?_methodNamed_eq_none ht, Option.or_none, Option.map_map]
  rfl

end ServerScript

namespace Migration

open MigrationNotes

variable {f g : SourceFile} {value : String}

theorem setupNotes_of_none (h : setupReturn? f.text = none)
    (hm : mentions "setupNewGame" f.text.toList) :
    setupNotes f = pendingNote (s!"`{f.fileName}`: `setupNewGame` has no `return` statement. " ++
      "Modern pattern: `return PlayerTurn::class;`") := by
  simp only [setupNotes, h, hm, if_true]

theorem setupNotes_of_some (h : setupReturn? f.text = some value) :
    setupNotes f =
      if mentions "::class" value.toList then
        modernNote s!"`{f.fileName}`: `setupNewGame` returns `{value}`"
      else
        pendingNote (s!"`{f.fileName}`: `setupNewGame` does not return an initial State class. " ++
          "Modern pattern: `return PlayerTurn::class;`") := by
  simp only [setupNotes, h]

theorem setupNotes_ne (hf : setupReturn? f.text = none)
    (hm : mentions "setupNewGame" f.text.toList) (hg : setupReturn? g.text = some value)
    (hp : f.path = g.path) : setupNotes f ≠ setupNotes g := by
  rw [setupNotes_of_none hf hm, setupNotes_of_some hg]
  intro h
  split at h
  case isTrue => exact absurd (congrArg MigrationNotes.pending h) (List.cons_ne_nil _ _)
  case isFalse =>
    have hs := congrArg String.toList (List.cons.inj (congrArg MigrationNotes.pending h)).left
    simp only [SourceFile.fileName, hp, toString, String.toList_append, List.append_assoc,
      List.append_cancel_left_eq] at hs
    exact absurd hs (by decide)

theorem not_infix_setupText (hq : ¬mentions "setupNewGame" params)
    (hb : ¬mentions "setupNewGame" body) (ha : ¬mentions "setupNewGame" t) :
    ¬"setupNewGame".toList <:+: setupText params body ++ '\x7d' :: t := by
  rw [mentions_iff (by decide)] at hq hb ha
  have hn : ¬"setupNewGame".toList <:+: [] := by decide
  rw [setupText, infix_append_cons (by decide), ← List.nil_append ('(' :: _),
    infix_append_cons (by decide), infix_append_cons (by decide), ← List.nil_append (' ' :: _),
    infix_append_cons (by decide), ← List.nil_append ('\x7b' :: _), infix_append_cons (by decide)]
  simp only [hn, hq, hb, ha, or_self, not_false_eq_true]

theorem mentions_setupScript (path : String) (p params body after : List Char) :
    mentions "setupNewGame" (setupScript path p params body after).text.toList := by
  have ht : (setupScript path p params body after).text.toList =
      p ++ (declaration "setupNewGame" ++ (setupText params body ++ '\x7d' :: after)) :=
        String.toList_ofList
  rw [mentions_iff (by decide), ht]
  exact infix_declaration ..

-- The note on the method that sets the game up is the same whatever follows the method exactly if
-- the text of the method settles what it returns. Else a return statement of what follows is taken
-- for one of the method.
theorem setupNotes_local_iff (path : String) (hp : ¬mentions "setupNewGame" p)
    (hq : ¬mentions "setupNewGame" params) (hb : ¬mentions "setupNewGame" body) :
    (∀ after, ¬mentions "setupNewGame" after →
        setupNotes (setupScript path p params body after) =
          setupNotes (setupScript path p params body [])) ↔
      Settled (setupText params body ++ ['\x7d']) := by
  have hp : ¬"setupNewGame".toList <:+: p := by rwa [← mentions_iff (by decide)]
  have hr (after) (ha : ¬mentions "setupNewGame" after) :
      setupReturn? (setupScript path p params body after).text = _ :=
    setupReturn?_eq hp (not_infix_setupText hq hb ha)
  have hn : ¬mentions "setupNewGame" [] := by decide
  constructor
  case mp =>
    intro h
    by_contra hs
    have ha : ¬mentions "setupNewGame" "return 0;".toList := by decide
    have ⟨hnone, hsome⟩ := skipAtMost_of_not_settled hs
    have ⟨x, hx⟩ := Option.isSome_iff_exists.mp hsome
    rw [List.append_assoc, List.singleton_append] at hx
    have h₁ := hr [] hn
    have h₂ := hr _ ha
    rw [hnone] at h₁
    rw [hx] at h₂
    exact setupNotes_ne h₁ (mentions_setupScript ..) h₂ rfl (h _ ha).symm
  case mpr =>
    intro hs after ha
    have he : setupReturn? (setupScript path p params body after).text =
        setupReturn? (setupScript path p params body []).text := by
      rw [hr _ ha, hr _ hn, skipAtMost_of_settled hs, skipAtMost_of_settled hs]
    have hm := mentions_setupScript path p params body
    simp only [setupNotes, he, hm]
    rfl

theorem setupNotes_subset (settings : Settings) {sources : Sources}
    (h : sources.mainScript = some f) :
    (setupNotes f).modern ⊆ (ofSources settings sources).modern ∧
      (setupNotes f).pending ⊆ (ofSources settings sources).pending := by
  simp only [ofSources, notes, h, Option.map_some, Option.getD_some, mainScriptNotes, modern_append,
    pending_append]
  constructor <;> intro note hn <;> simp [hn]

def emptySetup (after : List Char) : Sources :=
  { Sources.empty with mainScript := some (setupScript "Game.php" [] [] [] after) }

theorem emptySetup_misread :
    ¬Settled (setupText [] [] ++ ['\x7d']) ∧
      (¬∀ after, ¬mentions "setupNewGame" after →
        setupNotes (setupScript "Game.php" [] [] [] after) =
          setupNotes (setupScript "Game.php" [] [] [] [])) ∧
      ("`Game.php`: `setupNewGame` has no `return` statement. Modern pattern: `return PlayerTurn::class;`" ∈
        (ofSources .default (emptySetup [])).pending) ∧
      "`Game.php`: `setupNewGame` returns `A::class`" ∈
        (ofSources .default
          (emptySetup "function next() \x7b return A::class; \x7d".toList)).modern := by
  have hn : ¬mentions "setupNewGame" [] := by decide
  have hs : ¬Settled (setupText [] [] ++ ['\x7d']) := by
    rw [settled_iff]
    intro h
    cases h
    case inl h => contradiction
    case inr h => exact absurd h.left (by decide)
  have hr (after) (ha : ¬mentions "setupNewGame" after) :
      setupReturn? (setupScript "Game.php" [] [] [] after).text = _ :=
    setupReturn?_eq (by decide) (not_infix_setupText hn hn ha)
  have he : setupReturn? (setupScript "Game.php" [] [] [] []).text = none := hr [] hn
  have ha : setupReturn? (setupScript "Game.php" [] [] []
      "function next() \x7b return A::class; \x7d".toList).text = some "A::class" :=
    hr _ (by decide)
  refine ⟨hs, mt (setupNotes_local_iff "Game.php" hn hn hn).mp hs, ?_, ?_⟩
  · apply (setupNotes_subset .default rfl).right
    rw [setupNotes_of_none he (mentions_setupScript ..)]
    exact List.mem_singleton_self _
  · apply (setupNotes_subset .default rfl).left
    rw [setupNotes_of_some ha, if_pos (by decide)]
    exact List.mem_singleton_self _

end Migration
end StateLint
