import Mathlib.Data.List.Forall2
import StateLint.Proofs.FirstOccurrence
import StateLint.Proofs.NormalForm
import StateLint.Proofs.ServerScript.Function
import StateLint.Proofs.Text.Cut

namespace StateLint.ServerScript

open Text Reader Pattern

variable {s t n params front : List Char} {heads : List (Piece (List Char × List Char))}
  {h : Piece (List Char × List Char)} {text : String}

def IsHead (n params s : List Char) : Prop :=
  ∃ b b', (b ≠ [] ∧ ∀ c ∈ b, isBlank c) ∧ IsName n ∧ (∀ c ∈ b', isBlank c) ∧ ')' ∉ params ∧
    s = "function".toList ++ (b ++ (n ++ (b' ++ '(' :: (params ++ [')']))))

theorem IsHead.ne_nil (h : IsHead n params s) : s ≠ [] := by
  have ⟨_, _, _, _, _, _, hs⟩ := h
  exact hs ▸ List.cons_ne_nil _ _

theorem IsHead.read (h : IsHead n params s) (t : List Char) :
    functionHead (s ++ t) = some ((n, params), t) := by
  obtain ⟨b, b', ⟨hb, hbs⟩, hn, hbs', hp, rfl⟩ := h
  have blank : ∀ c ∈ ('(' :: (params ++ ')' :: t)).head?, isBlank c = false := by simp [isBlank]
  have word : ∀ c ∈ (b' ++ '(' :: (params ++ ')' :: t)).head?, isWord c = false := by
    cases b'
    case nil => simp [isWord_ascii]
    case cons c cs => simpa using not_isWord_of_isBlank (hbs' c List.mem_cons_self)
  have first : ∀ c ∈ (n ++ (b' ++ '(' :: (params ++ ')' :: t))).head?, isBlank c = false :=
    fun c hc => not_isBlank_of_isWord (hn.head c hc)
  simp only [List.append_assoc, List.cons_append, List.nil_append]
  exact bind_eq_some.mpr ⟨_, _, literal_append "function" _,
    bind_eq_some.mpr ⟨_, _, blanks1_append hb hbs first,
    bind_eq_some.mpr ⟨_, _, hn.read word, bind_eq_some.mpr ⟨_, _, blanks_append hbs' blank,
      bind_eq_some.mpr ⟨_, _, literal_append "(" _, bind_eq_some.mpr ⟨_, _, run_until hp,
        bind_eq_some.mpr ⟨_, _, literal_append ")" _, rfl⟩⟩⟩⟩⟩⟩⟩

theorem functionHead_iff :
    functionHead s = some ((n, params), t) ↔ ∃ read, IsHead n params read ∧ s = read ++ t := by
  constructor
  case mp =>
    intro h
    have ⟨b, b', hb, hn, hb', hp, hs⟩ := functionHead_eq_some h
    refine ⟨_, ⟨b, b', hb, hn, hb', hp, rfl⟩, ?_⟩
    rw [hs]
    simp only [List.append_assoc, List.cons_append, List.nil_append]
  case mpr =>
    rintro ⟨read, h, rfl⟩
    exact h.read t

theorem functionHead_leavesEnd : functionHead.LeavesEnd := by
  intro s a t h
  have ⟨read, _, hs⟩ := functionHead_iff.mp h
  exact ⟨read, hs.symm⟩

theorem functionHead_advances : functionHead.Advances := by
  intro s a t h
  have ⟨read, hr, hs⟩ := functionHead_iff.mp h
  have := List.length_pos_iff.mpr hr.ne_nil
  rw [hs, List.length_append]
  omega

def IsReceiver (s : List Char) : Prop :=
  s = "self::".toList ∨ ∃ b b', (∀ c ∈ b, isBlank c) ∧ (∀ c ∈ b', isBlank c) ∧
    s = "$this".toList ++ (b ++ ("->".toList ++ b'))

def IsGuardCall (s : List Char) : Prop :=
  ∃ receiver b, IsReceiver receiver ∧ (∀ c ∈ b, isBlank c) ∧
    s = receiver ++ ("checkAction".toList ++ (b ++ ['(']))

def Guards (body : List Char) : Prop :=
  ∃ p call t, IsGuardCall call ∧ body = p ++ (call ++ t)

def guardReceiver : Reader Unit :=
  literal "self::" <|> (do
    literal "$this"
    blanks
    literal "->"
    blanks)

theorem guardReceiver_eq_some {u : Unit} (h : guardReceiver s = some (u, t)) :
    ∃ r, IsReceiver r ∧ s = r ++ t := by
  rw [guardReceiver, orElse_eq] at h
  cases Option.or_eq_some_iff.mp h
  case inl h => exact ⟨_, .inl rfl, literal_eq_some.mp h⟩
  case inr h =>
    have ⟨_, s₁, h₁, h⟩ := bind_eq_some.mp h.right
    have ⟨_, s₂, h₂, h⟩ := bind_eq_some.mp h
    have ⟨_, s₃, h₃, h₄⟩ := bind_eq_some.mp h
    have ⟨b, hb, hs₁⟩ := blanks_eq_some h₂
    have ⟨b', hb', hs₃⟩ := blanks_eq_some h₄
    refine ⟨_, .inr ⟨b, b', hb, hb', rfl⟩, ?_⟩
    rw [literal_eq_some.mp h₁, hs₁, literal_eq_some.mp h₃, hs₃]
    simp only [List.append_assoc]

theorem IsReceiver.read {r : List Char} (hr : IsReceiver r)
    (ht : ∀ c ∈ t.head?, isBlank c = false) :
    guardReceiver (r ++ t) = some ((), t) := by
  rw [guardReceiver, orElse_eq]
  cases hr
  case inl h => rw [h, literal_append, Option.some_or]
  case inr h =>
    obtain ⟨b, b', hb, hb', rfl⟩ := h
    have arrow : ∀ c ∈ ("->".toList ++ (b' ++ t)).head?, isBlank c = false := by simp [isBlank]
    have first : literal "self::" (("$this".toList ++ (b ++ ("->".toList ++ b'))) ++ t) = none :=
      rfl
    rw [first, Option.none_or]
    simp only [List.append_assoc]
    exact bind_eq_some.mpr ⟨_, _, literal_append "$this" _,
      bind_eq_some.mpr ⟨_, _, blanks_append hb arrow,
      bind_eq_some.mpr ⟨_, _, literal_append "->" _, blanks_append hb' ht⟩⟩⟩

theorem guardCall_isSome : (guardCall s).isSome ↔ ∃ call t, IsGuardCall call ∧ s = call ++ t := by
  constructor
  case mp =>
    intro h
    have ⟨⟨_, t⟩, h⟩ := Option.isSome_iff_exists.mp h
    have ⟨_, s₁, h₁, h⟩ := bind_eq_some.mp h
    have ⟨_, s₂, h₂, h⟩ := bind_eq_some.mp h
    have ⟨_, s₃, h₃, h₄⟩ := bind_eq_some.mp h
    have ⟨r, hr, hs⟩ := guardReceiver_eq_some h₁
    have ⟨b, hb, hs₂⟩ := blanks_eq_some h₃
    refine ⟨_, t, ⟨r, b, hr, hb, rfl⟩, ?_⟩
    rw [hs, literal_eq_some.mp h₂, hs₂, literal_eq_some.mp h₄]
    simp only [List.append_assoc]
    rfl
  case mpr =>
    rintro ⟨_, t, ⟨r, b, hr, hb, rfl⟩, rfl⟩
    have first : ∀ c ∈ ("checkAction".toList ++ (b ++ '(' :: t)).head?, isBlank c = false := by
      simp [isBlank]
    have paren : ∀ c ∈ ('(' :: t).head?, isBlank c = false := by simp [isBlank]
    have hs : guardCall (r ++ ("checkAction".toList ++ (b ++ '(' :: t))) = some ((), t) :=
      bind_eq_some.mpr ⟨_, _, hr.read first, bind_eq_some.mpr ⟨_, _, literal_append "checkAction" _,
        bind_eq_some.mpr ⟨_, _, blanks_append hb paren, literal_append "(" t⟩⟩⟩
    simp only [List.append_assoc, List.cons_append, List.nil_append, hs, Option.isSome_some]

theorem occursIn_guardCall : guardCall.anywhere.occursIn s ↔ Guards s := by
  constructor
  case mp =>
    intro h
    have ⟨x, hx⟩ := Option.isSome_iff_exists.mp h
    have ⟨_, u, ⟨p, hu⟩, hr⟩ := find?_go_eq_some hx
    have ⟨call, t, hc, ht⟩ := guardCall_isSome.mp (Option.isSome_of_eq_some hr)
    exact ⟨p, call, t, hc, by rw [← ht, hu]⟩
  case mpr =>
    rintro ⟨p, call, t, hc, rfl⟩
    refine occursIn_anywhere (List.suffix_append p _) ?_ (guardCall_isSome.mpr ⟨call, t, hc, rfl⟩)
    obtain ⟨receiver, b, _, _, rfl⟩ := hc
    simp

def Callable (h : Piece (List Char × List Char)) : Prop :=
  Action.Prefixed h.value.1 ∨ Guards h.body

def FirstCallable (heads : List (Piece (List Char × List Char))) (i : Nat) : Prop :=
  ∃ h, heads[i]? = some h ∧ Callable h ∧ ∀ j < i, ∀ g, heads[j]? = some g → Callable g →
    g.value.1 ≠ h.value.1

structure Tells (a : PlayerAction) (h : Piece (List Char × List Char)) : Prop where
  name : a.name.toList = h.value.1
  params : a.params.toList = [' '].intercalate (words h.value.2)
  guarded : a.guarded ↔ Guards h.body

def entry (h : Piece (List Char × List Char)) : PlayerAction :=
  { name := .ofList h.value.1
    params := .ofList ([' '].intercalate (words h.value.2))
    guarded := guardCall.anywhere.occursIn h.body }

theorem entry_tells (h : Piece (List Char × List Char)) : Tells (entry h) h where
  name := String.toList_ofList
  params := String.toList_ofList
  guarded := occursIn_guardCall

theorem functions_eq (h : IsCut functionHead front heads text.toList) :
    functions text = heads.map entry := by
  rw [functions, h.cut_eq, List.map_map]
  rfl

theorem entry_name_eq_iff {g : Piece (List Char × List Char)} :
    (entry g).name = (entry h).name ↔ g.value.1 = h.value.1 :=
  String.ofList_inj

def listed (a : PlayerAction) : Bool :=
  a.guarded || a.normalName != a.name

theorem listed_entry_iff : listed (entry h) ↔ Callable h := by
  have name : (entry h).normalName = (entry h).name ↔ ¬Action.Prefixed h.value.1 := by
    rw [PlayerAction.normalName, ← String.toList_inj, Action.toList_normalName,
      (entry_tells h).name, Action.normalize_eq_self_iff]
  rw [listed, Bool.or_eq_true, bne_iff_ne, Ne, name, not_not, (entry_tells h).guarded,
    or_comm, Callable]

theorem firstAt_entry_iff {i : Nat} :
    (∃ a, FirstAt listed PlayerAction.name (heads.map entry) i a) ↔ FirstCallable heads i := by
  simp only [FirstAt, FirstCallable, List.getElem?_map, Option.map_eq_some_iff]
  constructor
  case mp =>
    rintro ⟨_, ⟨h, hi, rfl⟩, hl, first⟩
    refine ⟨h, hi, listed_entry_iff.mp hl, fun j hj g hg hc he => ?_⟩
    exact first j hj _ ⟨g, hg, rfl⟩ (listed_entry_iff.mpr hc) (entry_name_eq_iff.mpr he)
  case mpr =>
    rintro ⟨h, hi, hc, first⟩
    refine ⟨_, ⟨h, hi, rfl⟩, listed_entry_iff.mpr hc, ?_⟩
    rintro j hj _ ⟨g, hg, rfl⟩ hl he
    exact first j hj g hg (listed_entry_iff.mp hl) (entry_name_eq_iff.mp he)

theorem exists_playerAction_iff (h : IsCut functionHead front heads text.toList) {name : String} :
    (∃ a ∈ playerActions text, a.name = name) ↔ ∃ h ∈ heads, h.value.1 = name.toList ∧
      Callable h := by
  rw [playerActions, functions_eq h]
  constructor
  case mp =>
    rintro ⟨a, ha, rfl⟩
    have ⟨ha, hl⟩ := List.mem_filter.mp ((eraseDupsBy_sublist _ _).subset ha)
    obtain ⟨g, hg, rfl⟩ := List.mem_map.mp ha
    exact ⟨g, hg, (entry_tells g).name.symm, listed_entry_iff.mp hl⟩
  case mpr =>
    rintro ⟨g, hg, hn, hc⟩
    have ha := List.mem_filter.mpr ⟨List.mem_map_of_mem hg, listed_entry_iff.mpr hc⟩
    have ⟨a, ha, he⟩ := exists_mem_eraseDupsBy PlayerAction.name ha
    refine ⟨a, ha, ?_⟩
    rw [he, ← String.toList_inj, (entry_tells g).name, hn]

theorem exists_places_playerActions (h : IsCut functionHead front heads text.toList) :
    ∃ places : List Nat, places.Pairwise (· < ·) ∧ (∀ i, i ∈ places ↔ FirstCallable heads i) ∧
      List.Forall₂ (fun a i => ∃ h, heads[i]? = some h ∧
        Tells a h) (playerActions text) places := by
  have ⟨places, increasing, hm, he⟩ :=
    exists_places_eraseDupsBy listed PlayerAction.name (functions text)
  rw [functions_eq h] at hm he
  refine ⟨places, increasing, fun i => (hm i).trans firstAt_entry_iff, ?_⟩
  have same :
      List.Forall₂ (fun a i => some a = (heads.map entry)[i]?) (playerActions text) places := by
    rw [playerActions, functions_eq h]
    exact List.forall₂_map_right_iff.mp (List.forall₂_map_left_iff.mp (he ▸ List.forall₂_refl _))
  refine same.imp fun a i ha => ?_
  rw [List.getElem?_map, eq_comm, Option.map_eq_some_iff] at ha
  obtain ⟨g, hg, rfl⟩ := ha
  exact ⟨g, hg, entry_tells g⟩

-- A script is cut at the heads of its functions in one way only, and nothing of it is lost. Listed
-- are the names under which a function may be called, each once: for each of them the first such
-- function, in the order of these functions, and with the parameters of that function and the
-- checks in its own body.
theorem playerActions_exact (text : String) :
    (∀ s n params t, functionHead s = some ((n, params), t) ↔
      ∃ read, IsHead n params read ∧ s = read ++ t) ∧
    ∃ front heads, IsCut functionHead front heads text.toList ∧
      (∀ front' heads', IsCut functionHead front' heads' text.toList →
        front' = front ∧ heads' = heads) ∧
      text.toList = front ++ heads.flatMap (fun h => h.read ++ h.body) ∧
      ((playerActions text).map PlayerAction.name).Nodup ∧
      (∀ name, (∃ a ∈ playerActions text, a.name = name) ↔
        ∃ h ∈ heads, h.value.1 = name.toList ∧ Callable h) ∧
      ∃ places : List Nat, places.Pairwise (· < ·) ∧ (∀ i, i ∈ places ↔ FirstCallable heads i) ∧
        List.Forall₂ (fun a i => ∃ h, heads[i]? = some h ∧ Tells a h)
          (playerActions text) places := by
  have ⟨front, heads, hc⟩ := exists_isCut functionHead_leavesEnd functionHead_advances text.toList
  exact ⟨fun _ _ _ _ => functionHead_iff, front, heads, hc, fun _ _ => hc.unique, hc.text_eq,
    nodup_map_eraseDupsBy PlayerAction.name _, fun _ => exists_playerAction_iff hc,
      exists_places_playerActions hc⟩

-- The first `move` may not be called, so the second one counts. Its check is not one of `actPass`.
example :
    playerActions ("function move() \x7b\x7d function actPass( $a) \x7b\x7d " ++
        "function move($id) \x7b self::checkAction('move'); \x7d") =
      [⟨"actPass", "$a", false⟩, ⟨"move", "$id", true⟩] := by
  decide +kernel

end StateLint.ServerScript
