import StateLint.Proofs.ServerScript.Sending

namespace StateLint.ServerScript

open Text Reader Pattern

abbrev Word := { s : List Char // IsName s }

inductive QuoteMark
  | single
  | double

namespace QuoteMark

def char : QuoteMark → Char
  | single => '\''
  | double => '"'

def around (q : QuoteMark) (s : List Char) : List Char :=
  q.char :: (s ++ [q.char])

theorem isQuote_char (q : QuoteMark) : isQuote q.char := by
  cases q <;> rfl

end QuoteMark

inductive Shape
  | all
  | player (id : Word)
  | allPlayers
  | onePlayer (id : Word)

namespace Shape

def receiver : Shape → String
  | all | player _ | onePlayer _ => "$this->"
  | allPlayers => "self::"

def method : Shape → String
  | all => "notify->all"
  | player _ => "notify->player"
  | allPlayers => "notifyAllPlayers"
  | onePlayer _ => "notifyPlayer"

def recipient : Shape → List Char
  | all | allPlayers => []
  | player id | onePlayer id => '$' :: (id.val ++ ", ".toList)

theorem receiver_misses (x : Shape) (t : List Char) : sendOf.Misses x.receiver.toList t := by
  have start : ∀ c ∈ x.receiver.toList, c ≠ 'n' := by cases x <;> simp [receiver]
  exact misses_of_heads fun c hc => sendOf_cons (start c hc)

theorem method_eq_cons (x : Shape) : ∃ m, x.method.toList = 'n' :: m ∧ ∀ t, sendOf.Misses m t := by
  have start : ∀ c ∈ x.method.toList.tail, c ≠ 'n' := by cases x <;> simp [method]
  refine ⟨x.method.toList.tail, by cases x <;> simp [method], fun t => ?_⟩
  exact misses_of_heads fun c hc => sendOf_cons (start c hc)

def named : Shape → Reader (List Char)
  | all | allPlayers => nameFirst
  | player _ | onePlayer _ => nameSecond

theorem sendOf_method (x : Shape) (s : List Char) :
    sendOf (x.method.toList ++ '(' :: s) = x.named s := by
  rw [sendOf, orElse_eq, orElse_eq]
  cases x
  case all =>
    have one : sendToOne ("notify->all".toList ++ '(' :: s) = none := rfl
    have old : sendToAllPlayers ("notify->all".toList ++ '(' :: s) = none := rfl
    rw [method, one, old, Option.or_none, Option.or_none]
    rfl
  case allPlayers =>
    have all : sendToAll ("notifyAllPlayers".toList ++ '(' :: s) = none := rfl
    have one : sendToOne ("notifyAllPlayers".toList ++ '(' :: s) = none := rfl
    rw [method, all, one, Option.none_or, Option.none_or]
    rfl
  case player =>
    have all : sendToAll ("notify->player".toList ++ '(' :: s) = none := rfl
    have old : sendToAllPlayers ("notify->player".toList ++ '(' :: s) = none := rfl
    rw [method, all, old, Option.none_or, Option.or_none]
    rfl
  case onePlayer =>
    have all : sendToAll ("notifyPlayer".toList ++ '(' :: s) = none := rfl
    have old : sendToAllPlayers ("notifyPlayer".toList ++ '(' :: s) = none := rfl
    rw [method, all, old, Option.none_or, Option.or_none]
    rfl

theorem not_paren_recipient (x : Shape) : '(' ∉ x.recipient := by
  have word (id : Word) := id.property.not_mem (c := '(') (by decide)
  cases x <;> simp [recipient, word]

end Shape

structure Send where
  shape : Shape
  name : Word
  nameMark : QuoteMark
  messageMark : QuoteMark

namespace Send

def message (x : Send) : List Char :=
  ", ".toList ++ (x.messageMark.around [] ++ ", [])".toList)

def arguments (x : Send) : List Char :=
  x.shape.recipient ++ (x.nameMark.around x.name ++ x.message)

def statement (x : Send) : List Char :=
  x.shape.receiver.toList ++ (x.shape.method.toList ++ '(' :: (x.arguments ++ [';']))

end Send

def script (sends : List Send) : String :=
  .ofList (['\n'].intercalate (sends.map Send.statement))

theorem quotedName_around (q : QuoteMark) (n : Word) (t : List Char) :
    quotedName (q.around n ++ t) = some (n.val, t) := by
  have mark (t : List Char) : quote (q.char :: t) = some (q.char, t) :=
    one_eq_some.mpr ⟨rfl, q.isQuote_char⟩
  have word : ∀ c ∈ (q.char :: t).head?, isWord c = false := by
    cases q <;> simp [QuoteMark.char, isWord_ascii]
  simp only [QuoteMark.around, List.cons_append, List.append_assoc, List.nil_append]
  exact bind_eq_some.mpr ⟨_, _, mark _, bind_eq_some.mpr ⟨_, _, n.property.read word,
    bind_eq_some.mpr ⟨_, _, mark t, rfl⟩⟩⟩

theorem nameFirst_blanks {b : List Char} (hb : ∀ c ∈ b, isBlank c) (q : QuoteMark) (n : Word)
    (t : List Char) :
    nameFirst (b ++ (q.around n ++ t)) = some (n.val, t) := by
  have mark : ∀ c ∈ (q.around n ++ t).head?, isBlank c = false := by
    cases q <;> simp [QuoteMark.around, QuoteMark.char, isBlank]
  exact bind_eq_some.mpr ⟨_, _, blanks_append hb mark, quotedName_around q n t⟩

theorem nameSecond_recipient (id : Word) (q : QuoteMark) (n : Word) (t : List Char) :
    nameSecond ('$' :: (id.val ++ (", ".toList ++ (q.around n ++ t)))) = some (n.val, t) := by
  have recipient : ∀ c ∈ '$' :: id.val, (c != ',' && c != '(' && c != ')') = true := by
    have hn {c} (h : isWord c = false) := id.property.not_mem h
    simp only [List.forall_mem_cons]
    refine ⟨rfl, fun c hc => ?_⟩
    have := ne_of_mem_of_not_mem hc (hn (c := ',') (by decide))
    have := ne_of_mem_of_not_mem hc (hn (c := '(') (by decide))
    have := ne_of_mem_of_not_mem hc (hn (c := ')') (by decide))
    simp [*]
  have comma : ∀ c ∈ (", ".toList ++ (q.around n ++ t)).head?, (c != ',' && c != '(' && c != ')') =
    false := by simp
  exact bind_eq_some.mpr ⟨_, _, run1_append (List.cons_ne_nil _ _) recipient comma,
    bind_eq_some.mpr ⟨_, _, literal_append "," _,
      nameFirst_blanks (b := [' ']) (by simp [isBlank]) q n t⟩⟩

namespace Send

theorem sendOf_call (x : Send) (t : List Char) :
    sendOf (x.shape.method.toList ++ '(' :: (x.arguments ++ t)) =
      some (x.name.val, x.message ++ t) := by
  have first := nameFirst_blanks (b := []) (by simp) x.nameMark x.name (x.message ++ t)
  have second id := nameSecond_recipient id x.nameMark x.name (x.message ++ t)
  rw [x.shape.sendOf_method]
  simp only [arguments, List.append_assoc]
  cases x.shape
  case all | allPlayers => exact first
  case player id | onePlayer id => simpa [Shape.named, Shape.recipient] using second id

theorem not_paren_arguments (x : Send) : '(' ∉ x.arguments := by
  have mark (q : QuoteMark) : '(' ≠ q.char := by cases q <;> decide
  have name := x.name.property.not_mem (c := '(') (by decide)
  simp [arguments, message, QuoteMark.around, x.shape.not_paren_recipient, mark, name]

theorem places_statement (x : Send) (t : List Char) :
    sendOf.anywhere.places (x.statement ++ t) = x.name.val :: sendOf.anywhere.places t := by
  have read := x.sendOf_call (';' :: t)
  have ⟨m, method, hm⟩ := x.shape.method_eq_cons
  have behind : sendOf.Misses (m ++ ('(' :: (x.arguments ++ [';']))) t :=
    (hm _).append ⟨sendOf_cons (by decide) _,
      sendOf_misses_closed x.not_paren_arguments rfl (by decide)⟩
  have text : x.statement ++ t =
      x.shape.receiver.toList ++ 'n' :: ((m ++ ('(' :: (x.arguments ++ [';']))) ++ t) := by
    simp [statement, method]
  have call : 'n' :: ((m ++ ('(' :: (x.arguments ++ [';']))) ++ t) =
      x.shape.method.toList ++ '(' :: (x.arguments ++ ';' :: t) := by
    simp [method]
  rw [text, places_of_misses (x.shape.receiver_misses _), places_anywhere_cons,
    places_of_misses behind, call, read]
  rfl

end Send

theorem places_script (sends : List Send) :
    sendOf.anywhere.places (['\n'].intercalate (sends.map Send.statement)) =
      sends.map fun x => x.name.val := by
  match sends with
  | [] => rfl
  | [x] => simpa using x.places_statement []
  | x :: y :: sends =>
    have hi := places_script (y :: sends)
    have line (s : List Char) : sendOf.Misses ['\n'] s := ⟨sendOf_cons (by decide) _, trivial⟩
    simp only [List.map_cons] at hi ⊢
    rw [List.intercalate_cons_cons, List.append_assoc, x.places_statement,
      places_of_misses (line _), hi]

-- A script that sends one notification after another sends those and no others, in the order of
-- their first statements, whatever the shapes are. They are found so if the forms are looked for
-- one by one and what is found is sorted.
theorem sentNotifications_script (sends : List Send) :
    sentNotifications (script sends) = (sends.map fun x => String.ofList x.name.val).eraseDups ∧
      merged (script sends) = (sends.map fun x => String.ofList x.name.val).eraseDups := by
  rw [← sentNotifications_eq_merged, and_self, sentNotifications, script, String.toList_ofList,
    places_send, places_script, List.map_map]
  rfl

-- A notification that is sent in two shapes is listed once.
example :
    let word (s : String) (h : IsName s.toList) : Word := ⟨s.toList, h⟩
    let moved := word "moved" (by decide)
    let id := word "id" (by decide)
    let sends : List Send :=
      [⟨.onePlayer id, moved, .single, .double⟩, ⟨.allPlayers, moved, .single, .single⟩]
    script sends = "$this->notifyPlayer($id, 'moved', \"\", []);\n" ++
        "self::notifyAllPlayers('moved', '', []);" ∧
      sentNotifications (script sends) = ["moved"] := by
  decide +kernel

end StateLint.ServerScript
