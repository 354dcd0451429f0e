import Mathlib.Data.List.Nodup
import StateLint.Proofs.StateArray.Field
import StateLint.Proofs.Text.Keyword
import StateLint.Proofs.Text.Listing

namespace StateLint.StateArray

open Text

-- A text that can stand between quotation marks on one line.
structure Plain (s : String) : Prop where
  quote     : '"' ∉ s.toList
  lineBreak : '\n' ∉ s.toList

structure Listable (s : String) : Prop extends Plain s where
  bracket : ']' ∉ s.toList

inductive Field where
  | text (key value : String)
  | actions (names : List String)
  | transitions (entries : List (String × UInt32))

namespace Field

def key : Field → String
  | text key _ => key
  | actions _ => "possibleactions"
  | transitions _ => "transitions"

def writeName (n : String) : List Char :=
  quoted '"' n.toList

def writeEntry (e : String × UInt32) : List Char :=
  quoted '"' e.1.toList ++ (" => ".toList ++ numeral e.2)

def content : Field → List Char
  | text _ value => quoted '"' value.toList
  | actions names => '[' :: (separated (names.map writeName) ++ [']'])
  | transitions entries => '[' :: (separated (entries.map writeEntry) ++ [']'])

def write (f : Field) : List Char :=
  quoted '"' f.key.toList ++ (" => ".toList ++ (f.content ++ [',']))

inductive Writable : Field → Prop
  | text {key value} : IsName key.toList → Plain value → Writable (.text key value)
  | actions {names} : (∀ n ∈ names, n ≠ "" ∧ Listable n) → Writable (.actions names)
  | transitions {entries} : (∀ e ∈ entries, Listable e.1) → Writable (.transitions entries)

def Empty : Field → Prop
  | text _ value => value = ""
  | actions names => names = []
  | transitions entries => entries = []

theorem Writable.key {f : Field} (h : f.Writable) : IsName f.key.toList := by
  cases h
  case text hk _ => exact hk
  case actions => exact show IsName "possibleactions".toList by decide
  case transitions => exact show IsName "transitions".toList by decide

theorem not_mem_names {names : List String} {c : Char} (h : ∀ n ∈ names, c ∉ n.toList)
    (hc : c ∉ ['"', ',', ' ']) :
    c ∉ separated (names.map writeName) := by
  simp only [List.mem_cons, not_or] at hc
  refine not_mem_separated ?_ (by simp [hc])
  intro i hi
  have ⟨n, hn, hi⟩ := List.mem_map.mp hi
  exact hi ▸ not_mem_quoted (h n hn) hc.left

theorem not_mem_entries {entries : List (String × UInt32)} {c : Char}
    (h : ∀ e ∈ entries, c ∉ e.1.toList) (hc : c ∉ ['"', ',', ' ', '=', '>'])
    (hd : c.isDigit = false) : c ∉ separated (entries.map writeEntry) := by
  simp only [List.mem_cons, not_or] at hc
  refine not_mem_separated ?_ (by simp [hc])
  intro i hi
  have ⟨e, he, hi⟩ := List.mem_map.mp hi
  subst hi
  simp only [writeEntry, List.mem_append, not_or]
  exact ⟨not_mem_quoted (h e he) hc.left, by simp [hc], not_mem_numeral hd⟩

theorem Writable.lineBreak {f : Field} (h : f.Writable) : '\n' ∉ f.write := by
  have hk : '\n' ∉ quoted '"' f.key.toList := not_mem_quoted (h.key.not_mem rfl) (by decide)
  have hc : '\n' ∉ f.content := by
    cases h
    case text hv => exact not_mem_quoted hv.lineBreak (by decide)
    case actions hn =>
      have := not_mem_names (fun n hm => (hn n hm).right.lineBreak) (by decide)
      simpa [Field.content] using this
    case transitions he =>
      have := not_mem_entries (fun e hm => (he e hm).lineBreak) (by decide) rfl
      simpa [Field.content] using this
  simp [write, hk, hc]

end Field

-- What an entry of a state array says. A text may be empty, and so may a label.
structure Entry where
  id : UInt32
  name : String
  type : String
  description : String
  descriptionMyTurn : String
  action : String
  possibleActions : List String
  transitions : List (String × UInt32)

namespace Entry

def fields (e : Entry) : List Field := [
  .text "name" e.name,
  .text "type" e.type,
  .text "description" e.description,
  .text "descriptionmyturn" e.descriptionMyTurn,
  .text "action" e.action,
  .actions e.possibleActions,
  .transitions e.transitions]

structure Writable (e : Entry) : Prop where
  named             : e.name ≠ ""
  name              : Plain e.name
  type              : Plain e.type
  description       : Plain e.description
  descriptionMyTurn : Plain e.descriptionMyTurn
  action            : Plain e.action
  possibleActions   : ∀ a ∈ e.possibleActions, a ≠ "" ∧ Listable a
  transitions       : ∀ t ∈ e.transitions, Listable t.1

def nonempty? (s : String) : Option String :=
  if s = "" then none else some s

def definition (location : String) (e : Entry) : StateDefinition where
  id := e.id
  name := e.name
  kind := .ofType e.type
  transitions := .ofList e.transitions
  actions := (e.possibleActions.map Action.normalName).eraseDups
  hasZombie := false
  layout := .stateArray
  location
  className := none
  description := nonempty? e.description
  descriptionMyTurn := nonempty? e.descriptionMyTurn
  callback := nonempty? e.action

variable {e : Entry}

theorem Writable.fields (h : e.Writable) : ∀ f ∈ e.fields, f.Writable := by
  simp only [Entry.fields, List.forall_mem_cons]
  exact ⟨.text (by decide) h.name, .text (by decide) h.type, .text (by decide) h.description,
    .text (by decide) h.descriptionMyTurn, .text (by decide) h.action, .actions h.possibleActions,
    .transitions h.transitions, nofun⟩

theorem eq_of_key {f g : Field} (hf : f ∈ e.fields) (hg : g ∈ e.fields) (h : g.key = f.key) :
    g = f := by
  have hn : (e.fields.map Field.key).Nodup := by simp [fields, Field.key]
  exact List.inj_on_of_nodup_map hn hg hf h

end Entry

structure Style where
  -- The blanks before an id, before a field and behind the whole array.
  outer    : List Char
  inner    : List Char
  trailing : List Char
  -- The fields of an entry that are written, in their order.
  fields   : Entry → List Field
  outer_blank    : Blank outer
  inner_blank    : Blank inner
  trailing_blank : Blank trailing
  subset   : ∀ e, fields e ⊆ e.fields
  complete : ∀ e, ∀ f ∈ e.fields, f ∈ fields e ∨ f.Empty

def lines (inner : List Char) (fields : List Field) : List Char :=
  fields.flatMap fun f => '\n' :: (inner ++ f.write)

theorem lines_cons {inner : List Char} {f : Field} {fs : List Field} :
    lines inner (f :: fs) = ('\n' :: inner) ++ (f.write ++ lines inner fs) := by
  simp [lines]

namespace Style

def standard : Style where
  outer := List.replicate 4 ' '
  inner := List.replicate 8 ' '
  trailing := []
  fields := Entry.fields
  outer_blank := by simp [Blank, isBlank]
  inner_blank := by simp [Blank, isBlank]
  trailing_blank := by simp [Blank]
  subset e := List.Subset.refl e.fields
  complete _ _ hf := .inl hf

variable (style : Style)

def body (e : Entry) : List Char :=
  lines style.inner (style.fields e) ++ (('\n' :: style.outer) ++ [']', ','])

def block (e : Entry) : List Char :=
  ('\n' :: style.outer) ++ (numeral e.id ++ (" => [".toList ++ style.body e))

def close : List Char :=
  ['\n', ']', ';'] ++ style.trailing

def text (es : List Entry) : List Char :=
  "$machinestates = [".toList ++ (es.flatMap style.block ++ style.close)

end Style

set_option maxRecDepth 8000 in
example :
    String.ofList (Style.standard.text [{
      id := 2, name := "playerTurn", type := "activeplayer"
      description := "", descriptionMyTurn := "", action := "stTurn"
      possibleActions := ["actPlay", "actPass"], transitions := [("play", 3), ("", 2)] }]) =
"$machinestates = [
    2 => [
        \"name\" => \"playerTurn\",
        \"type\" => \"activeplayer\",
        \"description\" => \"\",
        \"descriptionmyturn\" => \"\",
        \"action\" => \"stTurn\",
        \"possibleactions\" => [\"actPlay\", \"actPass\"],
        \"transitions\" => [\"play\" => 3, \"\" => 2],
    ],
];" :=
  rfl

end StateLint.StateArray
