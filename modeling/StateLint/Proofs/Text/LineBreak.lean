import StateLint.Proofs.Text.Search
import StateLint.Text.Basic

namespace StateLint.Text

-- The text with a carriage return before each line feed.
def crlf : List Char → List Char
  | [] => []
  | c :: cs => if c = '\n' then '\r' :: '\n' :: crlf cs else c :: crlf cs

def crlfText (t : String) : String :=
  .ofList (crlf t.toList)

variable {s t u : List Char} {c : Char}

@[simp]
theorem crlf_nil : crlf [] = [] := rfl

theorem crlf_lineFeed : crlf ('\n' :: s) = '\r' :: '\n' :: crlf s :=
  if_pos rfl

theorem crlf_cons_of_ne (h : c ≠ '\n') : crlf (c :: s) = c :: crlf s :=
  if_neg h

@[simp]
theorem toList_crlfText (t : String) : (crlfText t).toList = crlf t.toList :=
  String.toList_ofList

@[simp]
theorem crlfText_ofList : crlfText (.ofList s) = .ofList (crlf s) := by
  rw [crlfText, String.toList_ofList]

theorem crlf_append : crlf (s ++ t) = crlf s ++ crlf t := by
  induction s
  case nil => rfl
  case cons c cs hi =>
    simp only [List.cons_append, crlf, hi]
    split <;> rfl

theorem crlf_of_not_mem (h : '\n' ∉ s) : crlf s = s := by
  induction s
  case nil => rfl
  case cons c cs hi =>
    have ⟨hc, hs⟩ := not_or.mp (mt List.mem_cons.mpr h)
    rw [crlf_cons_of_ne (Ne.symm hc), hi hs]

theorem crlfText_of_not_mem {t : String} (h : '\n' ∉ t.toList) : crlfText t = t := by
  rw [crlfText, crlf_of_not_mem h, String.ofList_toList]

theorem crlf_eq_nil_iff : crlf s = [] ↔ s = [] := by
  cases s
  case nil => simp
  case cons c cs =>
    simp only [crlf]
    split <;> simp

theorem crlf_ne_lineFeed : crlf s ≠ '\n' :: t := by
  cases s
  case nil => simp
  case cons c cs =>
    simp only [crlf]
    split
    case isTrue => simp
    case isFalse hc => simp [hc]

theorem crlf_inj : crlf s = crlf t ↔ s = t := by
  refine ⟨fun h => ?_, congrArg crlf⟩
  induction s generalizing t
  case nil => exact (crlf_eq_nil_iff.mp h.symm).symm
  case cons c cs hi =>
    cases t
    case nil => exact crlf_eq_nil_iff.mp h
    case cons d ds =>
      by_cases hc : c = '\n'
      case pos =>
        by_cases hd : d = '\n'
        case pos =>
          subst hc hd
          simp only [crlf_lineFeed, List.cons.injEq, true_and] at h
          rw [hi h]
        case neg =>
          rw [hc, crlf_lineFeed, crlf_cons_of_ne hd] at h
          exact absurd (List.cons.inj h).right.symm crlf_ne_lineFeed
      case neg =>
        by_cases hd : d = '\n'
        case pos =>
          rw [hd, crlf_lineFeed, crlf_cons_of_ne hc] at h
          exact absurd (List.cons.inj h).right crlf_ne_lineFeed
        case neg =>
          rw [crlf_cons_of_ne hc, crlf_cons_of_ne hd] at h
          have ⟨hh, ht⟩ := List.cons.inj h
          rw [hh, hi ht]

theorem crlfText_inj {t u : String} : crlfText t = crlfText u ↔ t = u := by
  rw [crlfText, crlfText, String.ofList_inj, crlf_inj, String.toList_inj]

theorem crlfText_injective : Function.Injective crlfText :=
  fun _ _ => crlfText_inj.mp

-- A run of characters that does not tell a carriage return from a line feed is the same run.
theorem takeWhile_crlf {p : Char → Bool} (hp : p '\r' = p '\n') :
    (crlf s).takeWhile p = crlf (s.takeWhile p) := by
  induction s
  case nil => rfl
  case cons c cs hi =>
    by_cases hc : c = '\n'
    case pos => cases h : p '\n' <;> simp [hc, crlf_lineFeed, hp, h, hi]
    case neg => cases h : p c <;> simp [crlf_cons_of_ne hc, h, hi]

theorem dropWhile_crlf {p : Char → Bool} (hp : p '\r' = p '\n') :
    (crlf s).dropWhile p = crlf (s.dropWhile p) := by
  refine List.append_cancel_left (?_ : crlf (s.takeWhile p) ++ _ = _ ++ _)
  rw [← crlf_append, List.takeWhile_append_dropWhile, ← takeWhile_crlf hp,
    List.takeWhile_append_dropWhile]

theorem isWord_lineBreak : isWord '\r' = isWord '\n' := by
  rw [isWord_ascii (by decide), isWord_ascii (by decide)]
  rfl

theorem isDigit_lineBreak : isDigit '\r' = isDigit '\n' := by
  rw [isDigit_ascii (by decide), isDigit_ascii (by decide)]
  rfl

theorem head?_crlf {p : Char → Bool} (hp : p '\r' = p '\n') :
    (crlf s).head?.any p = s.head?.any p := by
  cases s
  case nil => rfl
  case cons c cs =>
    by_cases hc : c = '\n'
    case pos => simp [hc, crlf_lineFeed, hp]
    case neg => simp [crlf_cons_of_ne hc]

namespace Reader

variable {α β α' β' : Type} {r : Reader α} {r' : Reader α'} {f : α → α'} {g : β → β'}

-- Whatever one reader reads, the other one reads from the text with carriage returns, up to `f`.
def Carries (f : α → α') (r : Reader α) (r' : Reader α') : Prop :=
  ∀ s, r' (crlf s) = (r s).map fun x => (f x.1, crlf x.2)

def Inline (r : Reader α) : Prop :=
  ∀ s, r ('\n' :: s) = none

def Unbroken (l : String) : Prop :=
  '\r' ∉ l.toList ∧ '\n' ∉ l.toList

instance {l : String} : Decidable (Unbroken l) :=
  inferInstanceAs (Decidable (_ ∧ _))

namespace Carries

theorem pure {a : α} {a' : α'} (h : a' = f a) : Carries f (Pure.pure a : Reader α) (Pure.pure a') :=
  fun _ => h ▸ rfl

theorem bind {k : α → Reader β} {k' : α' → Reader β'} (hr : Carries f r r')
    (hk : ∀ a, Carries g (k a) (k' (f a))) :
    Carries g (r >>= k) (r' >>= k') := by
  intro s
  simp only [bind_eq, hr s]
  cases r s
  case none => rfl
  case some x => exact hk x.1 x.2

theorem orElse {q : Reader α} {q' : Reader α'} (hr : Carries f r r') (hq : Carries f q q') :
    Carries f (r <|> q) (r' <|> q') := by
  intro s
  simp only [orElse_eq, hr s, hq s]
  cases r s <;> rfl

theorem literal {l : String} (h : Unbroken l) :
    Carries id (Reader.literal l) (Reader.literal l) := by
  intro s
  obtain ⟨hr, hn⟩ := h
  simp only [Reader.literal]
  generalize l.toList = w at hr hn
  induction w generalizing s
  case nil => rfl
  case cons d w hi =>
    obtain ⟨hr, hwr⟩ := not_or.mp (mt List.mem_cons.mpr hr)
    obtain ⟨hn, hwn⟩ := not_or.mp (mt List.mem_cons.mpr hn)
    cases s
    case nil => rfl
    case cons c cs =>
      by_cases hc : c = '\n'
      case pos => simp [hc, crlf_lineFeed, isPrefixOf?_cons, Ne.symm hr, Ne.symm hn]
      case neg =>
        simp only [crlf_cons_of_ne hc, isPrefixOf?_cons]
        split
        case isTrue => exact hi cs hwr hwn
        case isFalse => rfl

theorem run {p : Char → Bool} (hp : p '\r' = p '\n') :
    Carries crlf (Reader.run p) (Reader.run p) := by
  intro s
  simp [Reader.run, takeWhile_crlf hp, dropWhile_crlf hp]

theorem run1 {p : Char → Bool} (hp : p '\r' = p '\n') :
    Carries crlf (Reader.run1 p) (Reader.run1 p) := by
  intro s
  simp only [run1_eq, takeWhile_crlf hp, dropWhile_crlf hp, crlf_eq_nil_iff]
  split <;> rfl

theorem one {p : Char → Bool} (hr : p '\r' = false) (hn : p '\n' = false) :
    Carries id (Reader.one p) (Reader.one p) := by
  intro s
  cases s
  case nil => rfl
  case cons c cs =>
    by_cases hc : c = '\n'
    case pos => simp [hc, crlf_lineFeed, Reader.one, hr, hn]
    case neg => cases h : p c <;> simp [crlf_cons_of_ne hc, Reader.one, h]

theorem blanks : Carries id Reader.blanks Reader.blanks := by
  intro s
  simp [Reader.blanks, dropWhile_crlf (p := isBlank) rfl]

theorem blanks1 : Carries id Reader.blanks1 Reader.blanks1 := by
  intro s
  simp only [Reader.blanks1, run1 (p := isBlank) rfl s, Option.map_map]
  rfl

theorem name : Carries crlf Reader.name Reader.name :=
  run1 isWord_lineBreak

theorem digits : Carries crlf Reader.digits Reader.digits :=
  run1 isDigit_lineBreak

theorem quote_bind {k : Char → Reader β} {k' : Char → Reader β'}
    (hk : ∀ q, q = '\'' ∨ q = '"' → Carries g (k q) (k' q)) :
    Carries g (Reader.quote >>= k) (Reader.quote >>= k') := by
  intro s
  have hq : Carries id Reader.quote Reader.quote := one (by decide) (by decide)
  simp only [bind_eq, hq s]
  cases hs : Reader.quote s
  case none => rfl
  case some x => exact hk x.1 (by simpa using (one_eq_some.mp hs).right) x.2

theorem wordEnd : Carries id Reader.wordEnd Reader.wordEnd := by
  intro s
  simp only [Reader.wordEnd, head?_crlf isWord_lineBreak]
  split <;> rfl

theorem skipFarthest (h : Carries f r r') (hb : ∀ s, r' ('\n' :: s) = r' ('\r' :: '\n' :: s)) :
    Carries f (fun s => Reader.skipFarthest r (s.takeWhile (· != '\n')).length s)
      fun s => Reader.skipFarthest r' (s.takeWhile (· != '\n')).length s := by
  intro s
  induction s
  case nil => exact h []
  case cons c cs hi =>
    have hs := h (c :: cs)
    by_cases hc : c = '\n'
    case pos =>
      subst hc
      rw [crlf_lineFeed] at hs ⊢
      simp [Reader.skipFarthest, hb, hs]
    case neg =>
      rw [crlf_cons_of_ne hc] at hs ⊢
      simp [Reader.skipFarthest, hc, hs, hi, Option.map_or]

theorem anywhere (h : Carries f r r') (b : Option Char) :
    Carries f (r.anywhere b) (r'.anywhere b) :=
  h

theorem atWordStart (h : Carries f r r') (b : Option Char) :
    Carries f (r.atWordStart b) (r'.atWordStart b) := by
  intro s
  simp only [Reader.atWordStart]
  split
  case isTrue => rfl
  case isFalse => exact h s

end Carries

namespace Inline

theorem bind {k : α → Reader β} (h : Inline r) : Inline (r >>= k) := by
  intro s
  rw [bind_eq, h s]
  rfl

theorem literal {l : String} (h : Unbroken l) (hl : l ≠ "") : Inline (Reader.literal l) := by
  intro s
  cases hw : l.toList
  case nil => exact absurd (String.toList_eq_nil_iff.mp hw) hl
  case cons c w => exact literal_cons hw fun hc => h.right (hw ▸ hc ▸ List.mem_cons_self)

theorem literal_bind {l : String} {k : Unit → Reader β} (h : Unbroken l) (hl : l ≠ "") :
    Inline (Reader.literal l >>= k) :=
  .bind (.literal h hl)

theorem one {p : Char → Bool} (hp : p '\n' = false) : Inline (Reader.one p) := by
  intro s
  simp [Reader.one, hp]

theorem run1 {p : Char → Bool} (hp : p '\n' = false) : Inline (Reader.run1 p) := by
  intro s
  simp [Reader.run1, hp]

theorem anywhere (h : Inline r) (b : Option Char) : Inline (r.anywhere b) :=
  h

theorem atWordStart (h : Inline r) (b : Option Char) : Inline (r.atWordStart b) := by
  intro s
  simp [Reader.atWordStart, h s]

end Inline

theorem skipFarthest_leavesEnd (hr : r.LeavesEnd) (n : List Char → Nat) :
    LeavesEnd fun s => skipFarthest r (n s) s := by
  intro s a t h
  have ⟨u, hu, hs⟩ := skipFarthest_eq_some h
  exact (hr hs).trans hu

-- What is left is an end of what was given, and never all of it.
def Consumes (r : Reader α) : Prop :=
  r.LeavesEnd ∧ r.Advances

theorem Consumes.bind {k : α → Reader β} (hr : Consumes r) (hk : ∀ a, (k a).LeavesEnd) :
    Consumes (r >>= k) :=
  ⟨hr.left.bind hk, hr.right.bind hk⟩

theorem Consumes.one (p : Char → Bool) : Consumes (Reader.one p) := by
  refine ⟨fun s c t h => ?_, fun s c t h => ?_⟩
  · exact (one_eq_some.mp h).left ▸ List.suffix_cons c t
  · simp [(one_eq_some.mp h).left]

theorem Consumes.literal {l : String} (h : l.toList ≠ []) : Consumes (Reader.literal l) :=
  ⟨literal_leavesEnd l, literal_advances h⟩

end Reader

namespace Pattern

open Reader

variable {α α' : Type} {p : Pattern α} {p' : Pattern α'} {r : Reader α} {r' : Reader α'}
  {f : α → α'}

theorem find?_go_crlf (h : ∀ b, Carries f (p b) (p' b)) (hn : ∀ b, (p' b).Inline)
    (b : Option Char) (s : List Char) :
    find?.go p' b (crlf s) = (find?.go p b s).map fun x => (f x.1, crlf x.2) := by
  induction s generalizing b
  case nil => rfl
  case cons c cs hi =>
    have hc := h b (c :: cs)
    by_cases hb : c = '\n'
    case pos =>
      subst hb
      have hf : p' (some '\r') ('\n' :: crlf cs) = none := hn _ _
      rw [crlf_lineFeed] at hc ⊢
      simp only [find?.go, hc, hf, Option.none_or, hi, Option.map_or]
    case neg =>
      rw [crlf_cons_of_ne hb] at hc ⊢
      simp only [find?.go, hc, hi, Option.map_or]

theorem find?_crlf (h : ∀ b, Carries f (p b) (p' b)) (hn : ∀ b, (p' b).Inline) (s : List Char) :
    p'.find? (crlf s) = (p.find? s).map fun x => (f x.1, crlf x.2) :=
  find?_go_crlf h hn none s

theorem occursIn_crlf (h : ∀ b, Carries f (p b) (p' b)) (hn : ∀ b, (p' b).Inline) (s : List Char) :
    p'.occursIn (crlf s) = p.occursIn s := by
  simp [occursIn, find?_crlf h hn]

theorem findAll_cons_of_none {c : Char} {cs : List Char} (h : r (c :: cs) = none) :
    r.anywhere.findAll (c :: cs) = r.anywhere.findAll cs :=
  findAll_of_misses (s := [c]) ⟨h, trivial⟩

theorem findAll_crlf (h : Carries f r r') (hn : r'.Inline) (hr : r.Consumes) (s : List Char) :
    r'.anywhere.findAll (crlf s) = (r.anywhere.findAll s).map f := by
  induction hk : s.length using Nat.strong_induction_on generalizing s
  case h k hi =>
    cases s
    case nil => rfl
    case cons c cs =>
      have hc := h (c :: cs)
      cases hx : r (c :: cs)
      case none =>
        have hi := hi cs.length (by simp [← hk]) cs rfl
        rw [hx] at hc
        rw [findAll_cons_of_none hx, ← hi]
        by_cases hb : c = '\n'
        case pos =>
          subst hb
          rw [crlf_lineFeed] at hc ⊢
          rw [findAll_cons_of_none hc, findAll_cons_of_none (hn _)]
        case neg =>
          rw [crlf_cons_of_ne hb] at hc ⊢
          exact findAll_cons_of_none hc
      case some x =>
        have ⟨u, hu⟩ := hr.left hx
        have hs := hr.right hx
        have hn : u ≠ [] := by
          rintro rfl
          simp [← hu] at hs
        rw [← hu] at hx hc ⊢
        rw [hx, crlf_append] at hc
        rw [crlf_append, findAll_of_reads hn hx, findAll_of_reads (mt crlf_eq_nil_iff.mp hn) hc,
          hi x.2.length (hk ▸ hs) x.2 rfl, List.map_cons]

end Pattern
end StateLint.Text
