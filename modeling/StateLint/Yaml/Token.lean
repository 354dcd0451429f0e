import StateLint.Yaml.Scalar
import StateLint.Yaml.Tag

namespace StateLint.Yaml

inductive Token where
  | version (major minor : Nat)
  -- What a handle stands for at the start of tags.
  | tagHandle (handle : String) (start : Tag)
  | documentStart
  | documentEnd
  | sequenceStart
  | mappingStart
  | blockEnd
  | flowSequenceStart
  | flowSequenceEnd
  | flowMappingStart
  | flowMappingEnd
  | flowEntry
  | blockEntry
  | key
  | value
  | alias (name : String)
  | anchor (name : String)
  | tag (handle : String) (rest : Tag)
  | scalar (text : String) (style : ScalarStyle)
  deriving DecidableEq, Repr

-- Something that may turn out to be a key: where its first token stands and where it starts. If it
-- has to be one, a colon must follow.
structure KeyCandidate where
  required : Bool
  token : Nat
  index : Nat
  line : Nat
  column : Nat

-- What is known after some tokens were read.
structure Scan where
  cursor : Cursor
  tokens : Array Token
  -- The column of the block that is open, -1 if there is none.
  indent : Int
  -- The columns of the blocks around it, innermost first.
  outer : List Int
  -- A candidate for each flow collection that is open, innermost first, and one for the block
  -- around them.
  candidates : List (Option KeyCandidate)
  -- Whether a key may start here.
  keyAllowed : Bool

namespace Scan

def start (c : Cursor) : Scan := ⟨c, #[], -1, [], [none], true⟩

def inFlow (s : Scan) : Bool :=
  s.candidates.length > 1

def push (s : Scan) (t : Token) : Scan :=
  { s with tokens := s.tokens.push t }

def allowKey (s : Scan) (allowed : Bool) : Scan :=
  { s with keyAllowed := allowed }

def moveTo (s : Scan) (c : Cursor) : Scan :=
  { s with cursor := c }

def insert (s : Scan) (place : Nat) (t : Token) : Scan :=
  { s with tokens := s.tokens.extract 0 place ++ #[t] ++ s.tokens.extract place s.tokens.size }

def closeBlocks (s : Scan) (column : Int) : Scan :=
  if s.inFlow then s else go s s.indent s.outer
where
  go (s : Scan) (indent : Int) : List Int → Scan
    | [] => { s with indent, outer := [] }
    | i :: is =>
      if indent > column then go (s.push .blockEnd) i is else { s with indent, outer := i :: is }

def openBlock (s : Scan) (column place : Nat) (t : Token) : Scan :=
  if s.inFlow then s
  else if s.indent < column
    then { s.insert place t with indent := column, outer := s.indent :: s.outer }
  else s

-- Forgets the innermost candidate. One that has to be a key may not be forgotten.
def dropCandidate (s : Scan) : Option Scan :=
  match s.candidates with
  | some k :: ks => if k.required then none else some { s with candidates := none :: ks }
  | _ => some s

-- Forgets the candidates that are too far back: on an earlier line or more than 1024 bytes away.
def dropStale (s : Scan) : Option Scan := do
  let candidates ← s.candidates.mapM fun k =>
    match k with
    | some k =>
      if k.line < s.cursor.line || k.index + 1024 < s.cursor.index then
        if k.required then none else some none
      else
        some (some k)
    | none => some none
  return { s with candidates }

def saveCandidate (s : Scan) : Option Scan := do
  if s.keyAllowed then
    let s ← s.dropCandidate
    let c := s.cursor
    let k : KeyCandidate :=
      ⟨!s.inFlow && s.indent == c.column, s.tokens.size, c.index, c.line, c.column⟩
    return { s with candidates := some k :: s.candidates.drop 1 }
  else
    return s

-- Skips order marks, blanks, comments and line ends up to the next token. Where a key may start in
-- a block, no tab may stand.
def skipToToken : Nat → Scan → Scan
  | 0, s => s
  | n + 1, s =>
    let tabs := s.inFlow || !s.keyAllowed
    let c := (s.cursor.skipOrderMark.span fun ch => ch == ' ' || (tabs && ch == '\t')).2
    let c := if c.rest.head? == some '#' then c.toLineEnd else c
    match c.rest with
    | [] => s.moveTo c
    | ch :: _ =>
      if isBreak ch then
        skipToToken n { s with cursor := c.next, keyAllowed := s.keyAllowed || !s.inFlow }
      else
        s.moveTo c

def pushKeyed (s : Scan) (t : Token) (c : Cursor) : Option Scan := do
  let s ← s.saveCandidate
  return ((s.push t).allowKey false).moveTo c

def isNameChar (c : Char) : Bool :=
  c.isAlphanum || c == '_' || c == '-'

def anchorName (c : Cursor) : Option (String × Cursor) :=
  let (name, c) := c.span isNameChar
  if !name.isEmpty && (c.isBlankAt 0 || c.rest.head?.any ("?:,]\x7d%@`".toList.contains ·)) then
    some (.ofList name, c)
  else
    none

-- The characters of tags. Those of flow collections may stand only in a tag that is written out.
def isTagChar (writtenOut : Bool) (c : Char) : Bool :=
  isNameChar c || ";/?:@&=+$.%!~*'()".toList.contains c || (writtenOut && ",[]".toList.contains c)

def tagName (inFlow : Bool) (c : Cursor) : Option (String × Tag × Cursor) := do
  let (handle, rest, c) ←
    if c.rest.head? == some '<' then
      let (uri, c) := c.next.span (isTagChar true)
      if c.rest.head? == some '>' && !uri.isEmpty then some ("", ← Tag.ofUri? uri, c.next) else none
    else
      let (name, after) := c.span isNameChar
      if after.rest.head? == some '!' then
        let (uri, c) := after.next.span (isTagChar false)
        if uri.isEmpty then none else some ("!" ++ .ofList name ++ "!", ← Tag.ofUri? uri, c)
      else
        let (uri, c) := c.span (isTagChar false)
        let rest ← Tag.ofUri? uri
        some (if rest.isEmpty then ("", Tag.mark, c) else ("!", rest, c))
  if c.isBlankAt 0 || (inFlow && c.rest.head? == some ',') then
    return (handle, rest, c)
  else
    none

def lineEnd (c : Cursor) : Option Cursor :=
  let c := c.skipSpaces
  let c := if c.rest.head? == some '#' then c.toLineEnd else c
  if c.atLineEnd then some c.next else none

def directive (c : Cursor) : Option (Token × Cursor) := do
  let (name, c) := c.span isNameChar
  if !c.isBlankAt 0 then
    none
  else if name == "YAML".toList then
    let (major, c) := c.skipSpaces.span Char.isDigit
    if major.isEmpty || major.length > 9 || c.rest.head? != some '.' then
      none
    else
      let (minor, c) := c.next.span Char.isDigit
      if minor.isEmpty || minor.length > 9 then
        none
      else
        let number (ds : List Char) := ds.foldl (fun n d => 10 * n + (d.toNat - '0'.toNat)) 0
        return (.version (number major) (number minor), ← lineEnd c)
  else if name == "TAG".toList then
    let c := c.skipSpaces
    if c.rest.head? != some '!' then
      none
    else
      let (word, c) := c.next.span isNameChar
      let (handle, c) ←
        if c.rest.head? == some '!' then some ("!" ++ String.ofList word ++ "!", c.next)
        else if word.isEmpty then some ("!", c)
        else none
      if !c.isBlankAt 0 then
        none
      else
        let (uri, c) := c.skipSpaces.span (isTagChar true)
        if uri.isEmpty || !c.isBlankAt 0 then none
          else return (.tagHandle handle (← Tag.ofUri? uri), ← lineEnd c)
  else
    none

def value (s : Scan) : Option Scan := do
  let c := s.cursor.next
  match s.candidates with
  | some k :: ks =>
    let s := { s.insert k.token .key with candidates := none :: ks }
    return (((s.openBlock k.column k.token .mappingStart).allowKey false).push .value).moveTo c
  | _ =>
    if s.inFlow then
      return ((s.allowKey false).push .value).moveTo c
    else if s.keyAllowed then
      return (((s.openBlock s.cursor.column s.tokens.size .mappingStart).allowKey true).push
        .value).moveTo c
    else
      none

def explicitKey (s : Scan) : Option Scan := do
  let c := s.cursor.next
  if s.inFlow then
    let s ← s.dropCandidate
    return ((s.allowKey false).push .key).moveTo c
  else if s.keyAllowed then
    let s ← (s.openBlock s.cursor.column s.tokens.size .mappingStart).dropCandidate
    return ((s.allowKey true).push .key).moveTo c
  else
    none

def blockEntry (s : Scan) : Option Scan := do
  let c := s.cursor.next
  if s.inFlow then
    let s ← s.dropCandidate
    return ((s.allowKey true).push .blockEntry).moveTo c
  else if s.keyAllowed then
    let s ← (s.openBlock s.cursor.column s.tokens.size .sequenceStart).dropCandidate
    return ((s.allowKey true).push .blockEntry).moveTo c
  else
    none

def documentMark (s : Scan) (t : Token) : Option Scan := do
  let s ← (s.closeBlocks (-1)).dropCandidate
  return ((s.allowKey false).push t).moveTo (s.cursor.skip 3)

def openFlow (s : Scan) (t : Token) : Option Scan := do
  let s ← s.saveCandidate
  return ({ s with candidates := none :: s.candidates, keyAllowed := true }.push t).moveTo
    s.cursor.next

def closeFlow (s : Scan) (t : Token) : Option Scan := do
  let s ← s.dropCandidate
  let candidates := if s.inFlow then s.candidates.drop 1 else s.candidates
  return ({ s with candidates, keyAllowed := false }.push t).moveTo s.cursor.next

def block (s : Scan) (literal : Bool) : Option Scan := do
  let s ← s.dropCandidate
  let (text, c) ← blockScalar literal s.indent s.cursor.next
  return ((s.allowKey true).push
    (.scalar (.ofList text) (if literal then .literal else .folded))).moveTo c

def quoted (s : Scan) (mark : Char) : Option Scan := do
  let c := s.cursor.next
  let (text, c) ← quotedScalar mark (c.rest.length + 1) c
  s.pushKeyed (.scalar (.ofList text) (if mark == '"' then .doubleQuoted else .singleQuoted)) c

def plain (s : Scan) : Option Scan := do
  let c := s.cursor
  let r ← plainScalar s.inFlow (s.indent + 1).toNat (c.rest.length + 1) .empty c
  let s ← s.pushKeyed (.scalar (.ofList r.text) .plain) r.cursor
  return if r.atNewLine then s.allowKey true else s

def startsPlain (s : Scan) (ch : Char) : Bool :=
  (!isSpace ch && !"-?:,[]\x7b\x7d#&*!|>'\"%@`".toList.contains ch)
    || (ch == '-' && !(s.cursor.at? 1).any isSpace)
    || (!s.inFlow && (ch == '?' || ch == ':') && !s.cursor.isBlankAt 1)

def token (s : Scan) (ch : Char) : Option Scan :=
  let c := s.cursor
  if c.column == 0 && ch == '%' then do
    let s ← (s.closeBlocks (-1)).dropCandidate
    let (t, c) ← directive c.next
    return ((s.allowKey false).push t).moveTo c
  else if c.atMarks '-' then s.documentMark .documentStart
  else if c.atMarks '.' then s.documentMark .documentEnd
  else if ch == '[' then s.openFlow .flowSequenceStart
  else if ch == '\x7b' then s.openFlow .flowMappingStart
  else if ch == ']' then s.closeFlow .flowSequenceEnd
  else if ch == '\x7d' then s.closeFlow .flowMappingEnd
  else if ch == ',' then do
    let s ← s.dropCandidate
    return ((s.allowKey true).push .flowEntry).moveTo c.next
  else if ch == '-' && c.isBlankAt 1 then s.blockEntry
  else if ch == '?' && (s.inFlow || c.isBlankAt 1) then s.explicitKey
  else if ch == ':' && (s.inFlow || c.isBlankAt 1) then s.value
  else if ch == '*' then do
    let (name, c) ← anchorName c.next
    s.pushKeyed (.alias name) c
  else if ch == '&' then do
    let (name, c) ← anchorName c.next
    s.pushKeyed (.anchor name) c
  else if ch == '!' then do
    let (handle, suffix, c) ← tagName s.inFlow c.next
    s.pushKeyed (.tag handle suffix) c
  else if ch == '|' && !s.inFlow then s.block true
  else if ch == '>' && !s.inFlow then s.block false
  else if ch == '\'' || ch == '"' then s.quoted ch
  else if s.startsPlain ch then s.plain
  else none

def finish : Nat → Scan → Option (List Token)
  | 0, _ => none
  | n + 1, s => do
    let s ← (skipToToken (n + 1) s).dropStale
    let s := s.closeBlocks s.cursor.column
    match s.cursor.rest with
    | [] => do
      let s ← (s.closeBlocks (-1)).dropCandidate
      return s.tokens.toList
    | ch :: _ => finish n (← s.token ch)

end Scan

def Token.ofText? (text : String) : Option (List Token) := do
  let c ← Cursor.ofText? text
  Scan.finish (c.rest.length + 1) (.start c)

end StateLint.Yaml
