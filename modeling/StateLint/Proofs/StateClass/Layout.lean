import StateLint.Proofs.Text.Keyword
import StateLint.Proofs.Text.Listing
import StateLint.StateClass

namespace StateLint.StateClass

open Text

inductive Quote where
  | single
  | double

def Quote.char : Quote → Char
  | single => '\''
  | double => '"'

structure Entry where
  quote : Quote
  label : String
  target : UInt32

namespace Entry

def pair (e : Entry) : String × UInt32 :=
  (e.label, e.target)

def write (e : Entry) : List Char :=
  quoted e.quote.char e.label.toList ++ (" => ".toList ++ numeral e.target)

end Entry

structure Method where
  suffix : String
  comment : Option String

structure Content where
  name : String
  id : UInt32
  type : String
  transitions : List Entry
  methods : List Method
  zombie : Bool

-- A comment that fits on its line and does not speak of functions.
structure IsComment (s : String) : Prop where
  lineBreak : '\n' ∉ s.toList
  word      : "function".toList ∉ words s.toList

namespace Content

structure Writable (c : Content) : Prop where
  name     : IsName c.name.toList
  type     : IsName c.type.toList
  labels   : ∀ e ∈ c.transitions, IsName e.label.toList
  suffixes : ∀ m ∈ c.methods, IsName m.suffix.toList
  comments : ∀ m ∈ c.methods, ∀ s ∈ m.comment, IsComment s

def definition (location : String) (c : Content) : StateDefinition where
  id := c.id
  name := c.name
  kind := .ofType ("StateType::" ++ c.type)
  transitions := .ofList (c.transitions.map Entry.pair)
  actions := (c.methods.map fun m => .ofList (lowerFirst m.suffix.toList)).eraseDups
  hasZombie := c.zombie
  layout := .stateClass
  location
  className := some c.name
  description := none
  descriptionMyTurn := none
  callback := none

end Content

inductive Place where
  -- Before the braces of the class.
  | brace
  -- Before a member of the class.
  | member
  -- Before the call of the parent's constructor, an argument of it and its end.
  | call
  | argument
  | callEnd
  -- Before a comment and, on its line, a marked method.
  | comment
  | method

structure Style where
  gap   : Place → List Char
  blank : ∀ p, ∀ c ∈ gap p, isBlank c

namespace Style

def compact : Style where
  gap
    | .callEnd | .method => []
    | _ => [' ']
  blank p := by cases p <;> simp [isBlank]

def standard : Style where
  gap
    | .brace => ['\n']
    | .member => '\n' :: List.replicate 4 ' '
    | .call | .callEnd => '\n' :: List.replicate 8 ' '
    | .argument => '\n' :: List.replicate 12 ' '
    | .comment => [' ']
    | .method => List.replicate 4 ' '
  blank p := by cases p <;> simp [isBlank]

variable (style : Style)

def opening (c : Content) : List Char :=
  "class ".toList ++
    (c.name.toList ++
    (" extends GameState".toList ++
    (style.gap .brace ++
    ("\x7b".toList ++
    (style.gap .member ++ ("function __construct(protected Game $game) \x7b".toList ++
    (style.gap .call ++
      "parent::__construct($game".toList)))))))

def comma : List Char :=
  ',' :: style.gap .argument

def withId (c : Content) : List Char :=
  style.opening c ++ (style.comma ++ ("id: ".toList ++ numeral c.id))

def withType (c : Content) : List Char :=
  style.withId c ++ (style.comma ++ ("type: StateType::".toList ++ c.type.toList))

def callEnd : List Char :=
  "],".toList ++ (style.gap .callEnd ++ (");".toList ++ (style.gap .member ++ "\x7d".toList)))

def constructor (c : Content) : List Char :=
  style.withType c ++ (style.comma ++ ("transitions: [".toList ++
    (separated (c.transitions.map Entry.write) ++ style.callEnd)))

def comment : Option String → List Char
  | none => []
  | some s => style.gap .comment ++ ("//".toList ++ s.toList)

def marked (m : Method) : List Char :=
  "#[PossibleAction]".toList ++ (style.comment m.comment ++ (('\n' :: style.gap .method) ++
    ("public function act".toList ++ (m.suffix.toList ++ ['(']))))

def method (m : Method) : List Char :=
  style.gap .member ++ (style.marked m ++ ") \x7b\x7d".toList)

def zombie (present : Bool) : List Char :=
  if present then style.gap .member ++ "public function zombie() \x7b\x7d".toList else []

def closing (c : Content) : List Char :=
  style.zombie c.zombie ++ (style.gap .brace ++ "\x7d".toList)

def text (c : Content) : List Char :=
  style.constructor c ++ (c.methods.flatMap style.method ++ style.closing c)

end Style

set_option maxRecDepth 8000 in
example :
    String.ofList (Style.standard.text {
      name := "PlayerTurn", id := 10, type := "ACTIVE_PLAYER"
      transitions := [⟨.single, "pass", 20⟩, ⟨.double, "play", 30⟩]
      methods := [⟨"Pass", none⟩, ⟨"Play", some " one card"⟩], zombie := true }) =
"class PlayerTurn extends GameState
\x7b
    function __construct(protected Game $game) \x7b
        parent::__construct($game,
            id: 10,
            type: StateType::ACTIVE_PLAYER,
            transitions: ['pass' => 20, \"play\" => 30],
        );
    \x7d
    #[PossibleAction]
    public function actPass() \x7b\x7d
    #[PossibleAction] // one card
    public function actPlay() \x7b\x7d
    public function zombie() \x7b\x7d
\x7d" :=
  rfl

end StateLint.StateClass
