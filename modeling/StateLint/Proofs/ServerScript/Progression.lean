import Mathlib.Data.List.Infix
import StateLint.Proofs.ServerScript.Method
import StateLint.Proofs.ServerScript.Return

namespace StateLint

open Text Reader

variable {α : Type} {r : Reader α} {s t p : List Char}

namespace Text.Reader

theorem skipFarthest_length (w t : List Char) :
    skipFarthest r w.length (w ++ t) = (w.tails.reverse.map (· ++ t)).findSome? r := by
  induction w
  case nil => simp [skipFarthest]
  case cons c w hi =>
    have ht : ((c :: w).tails.reverse.map (· ++ t)) = w.tails.reverse.map (· ++ t) ++
      [c :: (w ++ t)] := by simp
    rw [ht, List.findSome?_append, ← hi, List.findSome?_singleton]
    rfl

end Text.Reader

namespace ServerScript

-- What may stand between the brace that opens a body and its first statement: blanks and whole line
-- comments.
inductive Gap
  | blank (c : Char) (h : isBlank c)
  | comment (text : List Char) (h : '\n' ∉ text)

namespace Gap

def text : Gap → List Char
  | blank c _ => [c]
  | comment text _ => '/' :: '/' :: (text ++ ['\n'])

def join (gaps : List Gap) : List Char :=
  gaps.flatMap text

-- The text from each place inside a comment on, the last place first. The statement `s` follows the
-- gaps.
def insides (s : List Char) : List Gap → List (List Char)
  | [] => []
  | blank _ _ :: gaps => insides s gaps
  | comment text _ :: gaps =>
    insides s gaps ++ text.tails.reverse.map (· ++ '\n' :: (join gaps ++ s))

end Gap

structure StartsStatement (s : List Char) : Prop where
  not_blank   : ∀ c ∈ s.head?, isBlank c = false
  not_comment : ¬"//".toList <+: s

def HasReturn (s : List Char) : Prop :=
  ∃ value, Returns value s

-- The first of some texts that a return statement opens is opened by `return 0;`.
def FirstReturnsZero (texts : List (List Char)) : Prop :=
  ∃ before t after, texts = before ++ t :: after ∧ (∀ u ∈ before, ¬HasReturn u) ∧ ReturnsZero t

def progressionScript (before : List Char) (gaps : List Gap) (s : List Char) : String :=
  .ofList (before ++
    (declaration "getGameProgression" ++ ("() \x7b".toList ++ (Gap.join gaps ++ s))))

variable {gaps : List Gap}

theorem openingReturn_statement (hs : StartsStatement s) : openingReturn s = returned s := by
  unfold openingReturn
  split
  case h_1 comment => exact absurd ⟨comment, rfl⟩ hs.not_comment
  case h_2 => rfl

theorem openingReturn_comment {w : List Char} (hw : '\n' ∉ w) (t : List Char) :
    openingReturn ('/' :: '/' :: (w ++ '\n' :: t)) =
      (openingReturn (t.dropWhile isBlank)).or
        ((w.tails.reverse.map (· ++ '\n' :: t)).findSome? returned) := by
  have hn : ∀ c ∈ ('\n' :: t).head?, (c != '\n') = false := by simp
  rw [openingReturn, takeWhile_stop (bne_of_not_mem hw) hn, dropWhile_stop (bne_of_not_mem hw) hn,
    skipFarthest_length]
  rfl

theorem openingReturn_join (hs : StartsStatement s) (gaps : List Gap) :
    openingReturn ((Gap.join gaps ++ s).dropWhile isBlank) =
      (s :: Gap.insides s gaps).findSome? returned := by
  induction gaps
  case nil =>
    have hd : s.dropWhile isBlank = s := dropWhile_stop (v := []) (by simp) hs.not_blank
    show openingReturn (s.dropWhile isBlank) = _
    rw [hd, openingReturn_statement hs]
    simp [Gap.insides]
  case cons gap gaps hi =>
    cases gap
    case blank c hc =>
      have hd : (Gap.join (.blank c hc :: gaps) ++ s).dropWhile isBlank =
          (Gap.join gaps ++ s).dropWhile isBlank :=
        List.dropWhile_cons_of_pos hc
      rw [hd, hi]
      rfl
    case comment w hw =>
      have ht : Gap.join (.comment w hw :: gaps) ++ s =
          '/' :: '/' :: (w ++ '\n' :: (Gap.join gaps ++ s)) := by
        simp [Gap.join, Gap.text]
      rw [ht, List.dropWhile_cons_of_neg (by decide), openingReturn_comment hw, hi]
      exact List.findSome?_append.symm

def progressionBody : Reader (List Char) := do
  blanks
  literal "("
  let _ ← run (· != ')')
  literal ")"
  let _ ← run (· != '\x7b')
  literal "\x7b"
  blanks
  openingReturn

theorem progressionBody_eq (t : List Char) :
    progressionBody ("() \x7b".toList ++ t) = openingReturn (t.dropWhile isBlank) :=
  rfl

theorem progressionIsStub_ofList (s : List Char) :
    progressionIsStub (.ofList s) ↔ ∃ t, progression.anywhere.find? s = some (['0'], t) := by
  rw [progressionIsStub, String.toList_ofList]
  cases progression.anywhere.find? s
  case none => simp
  case some x => simp [Prod.ext_iff]

theorem find?_progression (hp : ¬"getGameProgression".toList <:+: p) (hs : StartsStatement s)
    (gaps : List Gap) :
    progression.anywhere.find?
        (p ++ (declaration "getGameProgression" ++ ("() \x7b".toList ++ (Gap.join gaps ++ s)))) =
      ((s :: Gap.insides s gaps).findSome? returned).or
        (progression.anywhere.find? (Gap.join gaps ++ s)) := by
  have hr : progression = methodNamed "getGameProgression" progressionBody := rfl
  have hm : (methodNamed "getGameProgression" progressionBody).Misses "() \x7b".toList
      (Gap.join gaps ++ s) :=
    ⟨rfl, rfl, rfl, rfl, trivial⟩
  rw [hr, find?_methodNamed (by decide) (by decide) hp, progressionBody_eq, openingReturn_join hs,
    Pattern.find?_of_misses hm]

theorem not_hasReturn_iff : ¬HasReturn s ↔ returned s = none := by
  rw [HasReturn, exists_returns_iff, Option.not_isSome_iff_eq_none]

variable {texts : List (List Char)}

theorem firstReturnsZero_iff :
    FirstReturnsZero texts ↔ ∃ t, texts.findSome? returned = some (['0'], t) := by
  simp only [FirstReturnsZero, List.findSome?_eq_some_iff, not_hasReturn_iff, returnsZero_iff]
  constructor
  case mp => exact fun ⟨before, t, after, ht, hb, u, hu⟩ => ⟨u, before, t, after, ht, hu, hb⟩
  case mpr => exact fun ⟨u, before, t, after, ht, hu, hb⟩ => ⟨before, t, after, ht, hb, u, hu⟩

theorem forall_not_hasReturn_iff :
    (∀ t ∈ texts, ¬HasReturn t) ↔ texts.findSome? returned = none := by
  simp only [not_hasReturn_iff, List.findSome?_eq_none_iff]

-- Whether the game is taken to have got nowhere: the first statement counts if it is a return
-- statement. Else one inside a comment before it counts, the last one, and without any the method
-- is looked for again behind its brace.
theorem progressionIsStub_iff (hp : ¬mentions "getGameProgression" p) (hs : StartsStatement s)
    (gaps : List Gap) :
    progressionIsStub (progressionScript p gaps s) ↔
      FirstReturnsZero (s :: Gap.insides s gaps) ∨
        (∀ t ∈ s :: Gap.insides s gaps, ¬HasReturn t) ∧
          progressionIsStub (.ofList (Gap.join gaps ++ s)) := by
  have hp : ¬"getGameProgression".toList <:+: p := by rwa [← mentions_iff (by decide)]
  rw [progressionScript, progressionIsStub_ofList, progressionIsStub_ofList,
    find?_progression hp hs, firstReturnsZero_iff, forall_not_hasReturn_iff]
  simp only [Option.or_eq_some_iff, exists_or, exists_and_left]

def resetsFirst : List Gap :=
  [.blank '\n' (by decide), .comment " return 0;".toList (by decide)]

theorem resetsFirst_isStub :
    (¬mentions "getGameProgression" [] ∧ StartsStatement "reset(); \x7d".toList ∧
      ¬ReturnsZero "reset(); \x7d".toList) ∧
      progressionIsStub (progressionScript [] resetsFirst "reset(); \x7d".toList) := by
  have hp : ¬mentions "getGameProgression" [] := by decide
  have hs : StartsStatement "reset(); \x7d".toList := by
    constructor
    case not_blank =>
      rintro _ ⟨⟩
      rfl
    case not_comment => exact fun ⟨_, h⟩ => absurd (List.cons.inj h).left (by decide)
  refine ⟨⟨hp, hs, ?_⟩,
    (progressionIsStub_iff hp hs resetsFirst).mpr (.inl (firstReturnsZero_iff.mpr ⟨_, rfl⟩))⟩
  rw [returnsZero_iff]
  exact fun ⟨t, ht⟩ => by contradiction

theorem progressionIsStub_iff_returnsZero (hp : ¬mentions "getGameProgression" p)
    (hs : StartsStatement s) (hm : ¬mentions "getGameProgression" (Gap.join gaps ++ s))
    (hg : ∀ t ∈ Gap.insides s gaps, ¬HasReturn t) :
    progressionIsStub (progressionScript p gaps s) ↔ ReturnsZero s := by
  rw [mentions_iff (by decide)] at hp hm
  have hn : progression.anywhere.find? (Gap.join gaps ++ s) = none :=
    find?_methodNamed_eq_none (n := "getGameProgression") (k := progressionBody) hm
  rw [progressionScript, progressionIsStub_ofList, find?_progression hp hs, hn, Option.or_none,
    List.findSome?_cons, forall_not_hasReturn_iff.mp hg, returnsZero_iff]
  cases returned s <;> rfl

end ServerScript
end StateLint
