import StateLint.Yaml.Token

namespace StateLint.Yaml

inductive Node where
  | scalar (text : String) (style : ScalarStyle) (tag : Option Tag)
  | sequence (items : List Node)
  | mapping (entries : List (Node × Node))
  -- A node with an anchor.
  | anchored (number : Nat) (node : Node)
  | alias (number : Nat)
  deriving Inhabited, Repr

def Node.empty : Node := .scalar "" .plain none

mutual

def Node.marked : Node → List (Nat × Node)
  | .scalar _ _ _ => []
  | .sequence items => markedItems items
  | .mapping entries => markedEntries entries
  | .anchored number node => (number, node) :: node.marked
  | .alias _ => []

def markedItems : List Node → List (Nat × Node)
  | [] => []
  | item :: items => item.marked ++ markedItems items

def markedEntries : List (Node × Node) → List (Nat × Node)
  | [] => []
  | (k, v) :: entries => k.marked ++ v.marked ++ markedEntries entries

end

structure Assembly where
  tokens : List Token
  names : List (String × Nat)
  handles : List (String × Tag)

abbrev Assembler := StateT Assembly Option

namespace Assembler

def peek : Assembler (Option Token) := do
  return (← get).tokens.head?

def skip : Assembler Unit :=
  modify fun a => { a with tokens := a.tokens.drop 1 }

def accept (t : Token) : Assembler Bool := do
  if (← peek) = some t then
    skip
    return true
  else
    return false

-- Gives the name of an anchor its number: how many names there are when the anchor is met. A name
-- that is given again gets a new number, which the next new name gets too. An alias stands for the
-- last node under its number, even if that comes later or has the alias in it.
def number (name : String) : Assembler Nat := do
  let names := (← get).names
  modify fun a => { a with names := (name, names.length) :: names.filter (·.1 ≠ name) }
  return names.length

def properties : Assembler (Option String × Option Tag) := do
  match ← peek with
  | some (.anchor n) =>
    skip
    match ← peek with
    | some (.tag h rest) =>
      skip
      return (some n, some (← resolve h rest))
    | _ => return (some n, none)
  | some (.tag h rest) =>
    skip
    let tag ← resolve h rest
    match ← peek with
    | some (.anchor n) =>
      skip
      return (some n, some tag)
    | _ => return (none, some tag)
  | _ => return (none, none)
where
  resolve (handle : String) (rest : Tag) : Assembler Tag := do
    if handle.isEmpty then
      return rest
    else
      match (← get).handles.find? (·.1 = handle) with
      | some (_, start) => return start ++ rest
      | none => failure

def endsEntry : Option Token → Bool
  | some .key | some .value | some .blockEnd => true
  | _ => false

-- Passes over the comma before an entry of a flow collection; the first entry has none.
def separated (first : Bool) : Assembler Bool :=
  if first then return true else accept .flowEntry

def endsFlowEntry (close : Token) (t : Option Token) : Bool :=
  t = some .flowEntry || t = some close

mutual

def node (inBlock dashes : Bool) : Nat → Assembler Node
  | 0 => failure
  | n + 1 => do
    match ← peek with
    | some (.alias a) =>
      skip
      match (← get).names.find? (·.1 = a) with
      | some (_, number) => return .alias number
      | none => failure
    | _ =>
      let (anchor, tag) ← properties
      match anchor with
      | some a => return .anchored (← number a) (← content inBlock dashes true tag n)
      | none => content inBlock dashes tag.isSome tag n

def content (inBlock dashes mayBeEmpty : Bool) (tag : Option Tag) : Nat → Assembler Node
  | 0 => failure
  | n + 1 => do
    match ← peek with
    | some .blockEntry => if dashes then return .sequence (← items false n) else other
    | some (.scalar text style) =>
      skip
      return .scalar text style tag
    | some .flowSequenceStart =>
      skip
      return .sequence (← flowItems true n)
    | some .flowMappingStart =>
      skip
      return .mapping (← flowEntries true n)
    | some .sequenceStart =>
      if inBlock then
        skip
        return .sequence (← items true n)
      else
        other
    | some .mappingStart =>
      if inBlock then
        skip
        return .mapping (← entries n)
      else
        other
    | _ => other
where
  other : Assembler Node :=
    if mayBeEmpty then return .scalar "" .plain tag else failure

def items (indented : Bool) : Nat → Assembler (List Node)
  | 0 => failure
  | n + 1 => do
    if ← accept .blockEntry then
      let next ← peek
      let item ←
        if next = some .blockEntry || next = some .blockEnd || (!indented && endsEntry next) then
          pure Node.empty
        else
          node true false n
      return item :: (← items indented n)
    else if indented then
      if ← accept .blockEnd then return [] else failure
    else
      return []

def entries : Nat → Assembler (List (Node × Node))
  | 0 => failure
  | n + 1 => do
    if ← accept .key then
      let k ← if endsEntry (← peek) then pure Node.empty else node true true n
      let v ←
        if ← accept .value then
          if endsEntry (← peek) then pure Node.empty else node true true n
        else
          pure Node.empty
      return (k, v) :: (← entries n)
    else if ← accept .blockEnd then
      return []
    else
      failure

-- The items of a flow sequence. An item may be a mapping of one entry without its braces; if its
-- key is marked and left out, the token after the mark has no other meaning.
def flowItems (first : Bool) : Nat → Assembler (List Node)
  | 0 => failure
  | n + 1 => do
    if ← accept .flowSequenceEnd then
      return []
    else if ← separated first then
      if ← accept .key then
        let next ← peek
        let k ←
          if next = some .value || endsFlowEntry .flowSequenceEnd next then
            skip
            pure Node.empty
          else
            node false false n
        let v ← flowValue .flowSequenceEnd n
        return .mapping [(k, v)] :: (← flowItems false n)
      else if ← accept .flowSequenceEnd then
        return []
      else
        let item ← node false false n
        return item :: (← flowItems false n)
    else
      failure

def flowEntries (first : Bool) : Nat → Assembler (List (Node × Node))
  | 0 => failure
  | n + 1 => do
    if ← accept .flowMappingEnd then
      return []
    else if ← separated first then
      if ← accept .key then
        let next ← peek
        let k ←
          if next = some .value || endsFlowEntry .flowMappingEnd next then pure Node.empty
            else node false false n
        let v ← flowValue .flowMappingEnd n
        return (k, v) :: (← flowEntries false n)
      else if ← accept .flowMappingEnd then
        return []
      else
        let k ← node false false n
        return (k, .empty) :: (← flowEntries false n)
    else
      failure

def flowValue (close : Token) : Nat → Assembler Node
  | 0 => failure
  | n + 1 => do
    if ← accept .value then
      if endsFlowEntry close (← peek) then pure Node.empty else node false false n
    else
      return .empty

end

-- The directives before a document. The version may be given once, and so may each handle.
def directives (versionSeen : Bool) : Nat → Assembler Unit
  | 0 => pure ()
  | n + 1 => do
    match ← peek with
    | some (.version major minor) =>
      if versionSeen || major ≠ 1 || (minor ≠ 1 && minor ≠ 2) then
        failure
      else
        skip
        directives true n
    | some (.tagHandle h start) =>
      if (← get).handles.any (·.1 = h) then
        failure
      else
        skip
        modify fun a => { a with handles := (h, start) :: a.handles }
        directives versionSeen n
    | _ => pure ()

def endsDocument : Option Token → Bool
  | none | some (.version _ _) | some (.tagHandle _ _) | some .documentStart | some .documentEnd =>
    true
  | _ => false

def document (fuel : Nat) : Assembler Node := do
  match ← peek with
  | none => return .empty
  | some first =>
    let start ←
      match first with
      | .version _ _ | .tagHandle _ _ | .documentStart =>
        directives false fuel
        if ← accept .documentStart then pure true else failure
      | _ => pure false
    modify fun a => { a with handles := a.handles ++ [("!", Tag.mark), ("!!", Tag.core)] }
    let root ← if start && endsDocument (← peek) then pure Node.empty else node true false fuel
    if (← get).tokens.all (· = .documentEnd) then return root else failure

end Assembler

structure Document where
  root : Node
  marked : List (Nat × Node)

namespace Document

def ofText? (text : String) : Option Document := do
  let tokens ← Token.ofText? text
  let (root, _) ← Assembler.document (4 * tokens.length + 4) ⟨tokens, [], []⟩
  return ⟨root, root.marked⟩

def follow (d : Document) : Node → Option Node
  | .alias number => (d.marked.findRev? (·.1 = number)).map (·.2)
  | .anchored _ node => some node
  | node => some node

end Document

end StateLint.Yaml
