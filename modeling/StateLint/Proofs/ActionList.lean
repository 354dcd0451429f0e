import StateLint.Proofs.FirstOccurrence
import StateLint.Proofs.NormalForm
import StateLint.Proofs.StateArray.Lookup
import StateLint.Proofs.StateArray.Seam

namespace StateLint.StateArray

open Text Reader

structure WrittenAction where
  name      : String
  noQuote   : '"' ∉ name.toList
  noBracket : ']' ∉ name.toList

namespace WrittenAction

variable {a : WrittenAction} {as : List WrittenAction} {n : String}

def write (a : WrittenAction) : List Char :=
  quoted '"' a.name.toList

def listing (as : List WrittenAction) : List Char :=
  separated (as.map write)

def early (as : List WrittenAction) : List String :=
  (as.map name).takeWhile (· ≠ "")

def late (as : List WrittenAction) : List String :=
  ((as.map name).dropWhile (· ≠ "")).tail

-- What is read instead of an item behind one without a name.
def comma : String :=
  ", "

def read (as : List WrittenAction) : List String :=
  ((early as ++ (late as).map fun _ => comma).map Action.normalName).eraseDups

def meant (as : List WrittenAction) : List String :=
  (((as.map name).filter (· ≠ "")).map Action.normalName).eraseDups

-- What is passed over makes no difference: there is no item behind one without a name, or some
-- action is called like the comma, and every other one behind has the normal name of one before.
def Harmless (as : List WrittenAction) : Prop :=
  late as = [] ∨ comma ∈ as.map name ∧
    ∀ n ∈ late as, n = "" ∨ n = comma ∨ Action.normalName n ∈ (early as).map Action.normalName

theorem early_cons (h : a.name ≠ "") : early (a :: as) = a.name :: early as := by
  simp [early, h]

theorem late_cons (h : a.name ≠ "") : late (a :: as) = late as := by
  simp [late, h]

theorem early_cons_nameless (h : a.name = "") : early (a :: as) = [] := by
  simp [early, h]

theorem late_cons_nameless (h : a.name = "") : late (a :: as) = as.map name := by
  simp [late, h]

theorem named_eq : (as.map name).filter (· ≠ "") = early as ++ (late as).filter (· ≠ "") := by
  induction as
  case nil => rfl
  case cons a as hi =>
    by_cases h : a.name = ""
    case pos => simp [early_cons_nameless h, late_cons_nameless h, h]
    case neg =>
      rw [early_cons h, late_cons h, List.cons_append, ← hi]
      simp [h]

theorem mem_named (h : n ≠ "") : n ∈ as.map name ↔ n ∈ early as ∨ n ∈ late as := by
  have hm : n ∈ as.map name ↔ n ∈ (as.map name).filter (· ≠ "") := by simp [h]
  rw [hm, named_eq, List.mem_append, List.mem_filter]
  simp [h]

theorem normalName_eq_comma : Action.normalName n = comma ↔ n = comma :=
  Action.normalName_eq_iff rfl

theorem normalName_comma : Action.normalName comma = comma :=
  normalName_eq_comma.mpr rfl

theorem mem_read :
    n ∈ read as ↔ n ∈ (early as).map Action.normalName ∨ late as ≠ [] ∧ n = comma := by
  have hn : n ∈ ((late as).map fun _ => comma).map Action.normalName ↔
      late as ≠ [] ∧ n = comma := by
    cases late as <;> simp [normalName_comma]
  rw [read, List.mem_eraseDups, List.map_append, List.mem_append, hn]

theorem mem_meant :
    n ∈ meant as ↔ n ∈ (early as).map Action.normalName ∨ ∃ m ∈ late as, m ≠ "" ∧
      Action.normalName m = n := by
  rw [meant, List.mem_eraseDups, named_eq, List.map_append, List.mem_append]
  simp [and_assoc]

theorem normalName_mem_read (h : n ∈ late as) :
    Action.normalName n ∈ read as ↔
      n = comma ∨ Action.normalName n ∈ (early as).map Action.normalName := by
  rw [mem_read, normalName_eq_comma, and_iff_right (List.ne_nil_of_mem h), or_comm]

theorem comma_mem_meant : comma ∈ meant as ↔ comma ∈ as.map name := by
  have hc : comma ≠ "" := by decide
  rw [mem_meant, mem_named hc]
  simp [normalName_eq_comma, hc]

theorem read_eq_meant_iff_mem : read as = meant as ↔ ∀ n, n ∈ read as ↔ n ∈ meant as := by
  simp only [read, meant, named_eq, List.map_append, List.mem_eraseDups]
  exact eraseDups_append_eq_iff (a := comma) (by simp [normalName_comma])

theorem harmless_of_mem_iff (h : ∀ n, n ∈ read as ↔ n ∈ meant as) : Harmless as := by
  by_cases hl : late as = []
  case pos => exact .inl hl
  case neg =>
    apply Or.inr
    constructor
    case left => exact comma_mem_meant.mp ((h comma).mp (mem_read.mpr (.inr ⟨hl, rfl⟩)))
    case right =>
      intro n hn
      by_cases he : n = ""
      case pos => exact .inl he
      case neg =>
        exact .inr ((normalName_mem_read hn).mp ((h _).mpr (mem_meant.mpr (.inr ⟨n, hn, he, rfl⟩))))

theorem Harmless.mem_iff (h : Harmless as) : n ∈ read as ↔ n ∈ meant as := by
  cases h
  case inl h => simp [mem_read, mem_meant, h]
  case inr h =>
    have ⟨hc, h⟩ := h
    constructor
    case mp =>
      intro hn
      cases mem_read.mp hn
      case inl he => exact mem_meant.mpr (.inl he)
      case inr hl => exact hl.right ▸ comma_mem_meant.mpr hc
    case mpr =>
      intro hn
      cases mem_meant.mp hn
      case inl he => exact mem_read.mpr (.inl he)
      case inr hl =>
        have ⟨m, hm, hne, he⟩ := hl
        exact he ▸ (normalName_mem_read hm).mpr ((h m hm).resolve_left hne)

theorem read_eq_meant_iff : read as = meant as ↔ Harmless as :=
  read_eq_meant_iff_mem.trans ⟨harmless_of_mem_iff, fun h _ => h.mem_iff⟩

def stray : List WrittenAction → List Char
  | [] => ['"']
  | a :: as => ['"', ',', ' '] ++ listing (a :: as)

theorem listing_cons : listing (a :: as) = '"' :: (a.name.toList ++ stray as) := by
  cases as <;> simp [listing, write, stray, quoted]

theorem not_mem_listing : ']' ∉ listing as := by
  apply not_mem_separated
  case hc => decide
  case h =>
    intro i hi
    have ⟨w, _, hi⟩ := List.mem_map.mp hi
    exact hi ▸ not_mem_quoted w.noBracket (by decide)

end WrittenAction

open WrittenAction

variable {a : WrittenAction} {as : List WrittenAction}

theorem findAll_stray : item.anywhere.findAll (stray as) = as.map fun _ => comma := by
  induction as
  case nil => exact Pattern.findAll_eq_nil_of_misses ⟨rfl, trivial⟩
  case cons a as hi =>
    have hs : stray (a :: as) = quoted '"' comma.toList ++ (a.name.toList ++ stray as) := by
      rw [stray, listing_cons]
      rfl
    have hc : item (quoted '"' comma.toList ++ (a.name.toList ++ stray as)) =
        some (comma, a.name.toList ++ stray as) :=
      item_eq (by decide) (by decide)
    have hn : item.Misses a.name.toList (stray as) :=
      misses_of_heads fun _ hc => quoted_of_ne (ne_of_mem_of_not_mem hc a.noQuote)
    rw [hs, Pattern.findAll_of_reads (by simp [quoted]) hc, Pattern.findAll_of_misses hn, hi]
    rfl

theorem findAll_names :
    item.anywhere.findAll (listing as) = early as ++ (late as).map fun _ => comma := by
  induction as
  case nil => rfl
  case cons a as hi =>
    by_cases h : a.name = ""
    case pos =>
      have hm : item.Misses ['"'] (stray as) := by cases as <;> exact ⟨rfl, trivial⟩
      have hl : listing (a :: as) = ['"'] ++ stray as := by simp [listing_cons, h]
      rw [hl, Pattern.findAll_of_misses hm, findAll_stray, early_cons_nameless h,
        late_cons_nameless h, List.map_map]
      rfl
    case neg =>
      have hr : ∀ u, Ends u → item (a.write ++ u) = some (a.name, u) := by
        intro u _
        rw [write, item_eq (by simpa using h) a.noQuote, String.ofList_toList]
      rw [listing, List.map_cons,
        findAll_separated_cons (by simp [write, quoted]) hr quoted_of_separator, ← listing, hi,
        early_cons h, late_cons h, List.cons_append]

def actionsField (as : List WrittenAction) (after : List Char) : List Char :=
  "\"possibleactions\" => [".toList ++ (listing as ++ ']' :: after)

theorem listField_actionsField {after : List Char} :
    listField "possibleactions" (actionsField as after) = some (listing as, after) :=
  listField_read (by decide) not_mem_listing

-- A block that declares a state and holds a list of actions, or the start of one if the block ends
-- within it. No other field before it is taken for it.
structure Block.ListsActions (b : Block) (as : List WrittenAction) (field : List Char) : Prop where
  id    : (number? b.id).isSome
  name  : b.text "name" ≠ ""
  start : ∃ after, field <+: actionsField as after
  body  : ∃ before, b.body = before ++ field ∧
    (listField "possibleactions").anywhere.Avoids field none before

theorem exists_eq_of_prefix {s t u : List Char} {c : Char} (hp : u <+: s ++ c :: t) (hs : c ∉ s)
    (hu : c ∈ u) :
    ∃ t, u = s ++ c :: t := by
  rw [List.append_cons] at hp
  cases List.prefix_or_prefix_of_prefix hp (List.prefix_append (s ++ [c]) t)
  case inl h =>
    cases List.prefix_concat_iff.mp h
    case inl h => exact ⟨[], h⟩
    case inr h => exact absurd (h.subset hu) hs
  case inr h =>
    have ⟨t, h⟩ := h
    exact ⟨t, by rw [List.append_cons, h]⟩

theorem actionsField_eq {after : List Char} :
    actionsField as after = ("\"possibleactions\" => [".toList ++ listing as) ++ ']' :: after :=
  (List.append_assoc ..).symm

theorem eq_actionsField {field after : List Char} (hp : field <+: actionsField as after)
    (hm : ']' ∈ field) :
    ∃ after, field = actionsField as after := by
  have hn : ']' ∉ "\"possibleactions\" => [".toList ++ listing as := by
    rw [List.mem_append, not_or]
    exact ⟨by decide, not_mem_listing⟩
  have ⟨rest, h⟩ := exists_eq_of_prefix (actionsField_eq ▸ hp) hn hm
  exact ⟨rest, h.trans actionsField_eq.symm⟩

namespace Block.ListsActions

variable {b : Block} {field : List Char}

theorem actions_eq (h : b.ListsActions as field) (hm : ']' ∈ field) : b.actions = read as := by
  have ⟨_, hp⟩ := h.start
  have ⟨after, hf⟩ := eq_actionsField hp hm
  have ⟨before, hb, ha⟩ := h.body
  have hr : listField "possibleactions" field = some (listing as, after) :=
    hf ▸ listField_actionsField
  rw [Block.actions, list_of_avoids hb ha hr, findAll_names, WrittenAction.read]

theorem actions_eq_nil (h : b.ListsActions as field) (hm : ']' ∉ field) : b.actions = [] := by
  have ⟨before, hb, ha⟩ := h.body
  rw [Block.actions, list_of_open hb ha hm]
  rfl

end Block.ListsActions

-- A list of actions is read item by item up to the first one without a name, and behind that one a
-- comma is read for every item. So the state has the actions that are meant if no item stands
-- there, and hardly ever otherwise. A list is not read at all if the block ends within it, where an
-- item has a line that starts like another block.
theorem action_list_read {array : String} {b : Block} {field : List Char} (location : String)
    (hb : b ∈ blocks array.toList) (ha : b.ListsActions as field) :
    ∃ s ∈ states array location, b.definition? location = some s ∧
      (']' ∈ field → s.actions = read as ∧ (s.actions = meant as ↔ Harmless as)) ∧
        (']' ∉ field → s.actions = []) := by
  have ⟨s, hs, _, hr⟩ := Block.exists_definition? ha.id ha.name location
  refine ⟨s, List.mem_filterMap.mpr ⟨b, hb, hs⟩, hs, fun hm => ?_,
    fun hm => hr.trans (ha.actions_eq_nil hm)⟩
  rw [hr, ha.actions_eq hm]
  exact ⟨rfl, read_eq_meant_iff⟩

def passList : List WrittenAction :=
  [⟨"", List.not_mem_nil, List.not_mem_nil⟩, ⟨"pass", by decide, by decide⟩]

def passArray : String :=
  "2 => [\"name\" => \"a\", \"possibleactions\" => [\"\", \"pass\"]]"

theorem pass_lost :
    ∃ s ∈ states passArray "states.inc.php", s.actions = [", "] ∧ s.actions ≠ meant passList := by
  let b : Block := ⟨['2'], "\"name\" => \"a\", \"possibleactions\" => [\"\", \"pass\"]]".toList⟩
  have ho : Block.opening.anywhere.find? passArray.toList = some (b.id, b.body) := by decide
  have he : (Block.ending.anywhere.split b.body).1 = b.body := by decide
  have hb : b ∈ blocks passArray.toList := by
    rw [blocks_of_some ho, he]
    exact List.mem_cons_self
  have ha : b.ListsActions passList (actionsField passList [']']) :=
    { id := by decide
      name := by decide
      start := ⟨[']'], List.prefix_rfl⟩
      body := ⟨"\"name\" => \"a\", ".toList, by decide, by decide⟩ }
  have ⟨s, hs, _, whole, _⟩ := action_list_read "states.inc.php" hb ha
  have ⟨hr, hm⟩ := whole (by decide)
  have hc : WrittenAction.read passList = [", "] := congrArg ([·]) normalName_comma
  refine ⟨s, hs, hr.trans hc, fun h => ?_⟩
  cases hm.mp h
  case inl h => nomatch h
  case inr h => exact absurd h.left (by decide)

end StateLint.StateArray
