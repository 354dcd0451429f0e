import StateLint.Failure
import StateLint.Yaml.Node

namespace StateLint

open Yaml

namespace Yaml.Node

def toEntries? : Node → Option (List (Node × Node))
  | mapping entries => some entries
  | scalar "" .plain _ => some []
  | _ => none

def toItems? : Node → Option (List Node)
  | sequence items => some items
  | scalar "" .plain _ => some []
  | _ => none

def toText? : Node → Option String
  | scalar text _ _ => some text
  | _ => none

def digitsValue? (base : Nat) (digits : List Char) : Option Nat := do
  if digits.isEmpty then
    none
  else
    let ds ← digits.mapM Json.hexValue?
    if ds.all (· < base) then return ds.foldl (fun n d => n * base + d) 0 else none

-- An integer without a minus sign. Digits to base 10 that start with a superfluous zero are none.
def natural? (text : String) : Option Nat :=
  let s := text.toList
  let s := if s.head? == some '+' then s.drop 1 else s
  match s with
  | '0' :: 'x' :: digits => digitsValue? 16 digits
  | '0' :: 'o' :: digits => digitsValue? 8 digits
  | '0' :: 'b' :: digits => digitsValue? 2 digits
  | _ => if s.length > 1 && s.head? == some '0' then none else digitsValue? 10 s

-- An integer that fits into 32 bits. It must not be quoted; a literal block needs the tag of
-- integers.
def toUInt32? : Node → Option UInt32
  | scalar text style tag =>
    if style = .plain || (style = .literal && tag = some Tag.int) then
      (natural? text).bind fun n => if n < UInt32.size then some (.ofNat n) else none
    else
      none
  | _ => none

end Yaml.Node

namespace Yaml.Document

variable (d : Document)

def text? (n : Node) : Option String := do
  (← d.follow n).toText?

def texts? (n : Node) : Option (List String) := do
  (← (← d.follow n).toItems?).mapM d.text?

def uint32? (n : Node) : Option UInt32 := do
  (← d.follow n).toUInt32?

def entries? : Option (List (String × Node)) := do
  (← (← d.follow d.root).toEntries?).mapM fun e => (d.text? e.1).map (·, e.2)

end Yaml.Document

namespace Settings

def keys : List String :=
  ["initial_state_id", "terminal_state_id", "setup_state_name", "end_state_names",
    "builtin_notifications", "disabled_checks"]

def set? (s : Settings) (d : Document) (key : String) (value : Node) : Option Settings :=
  match key with
  | "initial_state_id" => (d.uint32? value).map fun v => { s with initialId := v }
  | "terminal_state_id" => (d.uint32? value).map fun v => { s with terminalId := v }
  | "setup_state_name" => (d.text? value).map fun v => { s with setupName := v }
  | "end_state_names" => (d.texts? value).map fun v => { s with endNames := v }
  | "builtin_notifications" => (d.texts? value).map fun v => { s with builtinNotifications := v }
  | "disabled_checks" => (d.texts? value).map fun v => { s with disabledRules := v }
  | _ => some s

def ofDocument? (d : Document) : Option Settings := do
  let entries ← d.entries?
  let known := (entries.map (·.1)).filter (· ∈ keys)
  if known.eraseDups.length ≠ known.length then
    none
  else
    entries.foldlM (fun s e => s.set? d e.1 e.2) default

-- The settings that a text describes, fit for use. A blank text leaves all as it is.
def ofYaml (text : String) : Except SettingsFailure Settings :=
  if (Text.trim text.toList).isEmpty then
    return default
  else
    match (Document.ofText? text).bind ofDocument? with
    | none => throw .malformed
    | some s =>
      match s.problem? with
      | some p => throw (.unfit p)
      | none => return s

end Settings
end StateLint
