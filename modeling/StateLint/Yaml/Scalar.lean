import StateLint.Json.Reader
import StateLint.Yaml.Cursor

namespace StateLint.Yaml

inductive ScalarStyle where
  | plain
  | singleQuoted
  | doubleQuoted
  | literal
  | folded
  deriving DecidableEq, Repr

structure Gap where
  -- The blanks before the first line end.
  spaces : List Char
  -- Whether there is a line end, be it an escaped one.
  broken : Bool
  -- The first line end, unless it is escaped.
  first : List Char
  -- The line ends after it.
  others : List Char

namespace Gap

def empty : Gap := ⟨[], false, [], []⟩

def escaped : Gap := ⟨[], true, [], []⟩

def text (g : Gap) : List Char :=
  if !g.broken then g.spaces
  else if g.first == ['\n'] then (if g.others.isEmpty then [' '] else g.others)
  else g.first ++ g.others

-- Reads a gap. Within its lines no tab may stand before the column `indent`.
def read (indent : Nat) : Nat → Gap → Cursor → Option (Gap × Cursor)
  | 0, g, c => some (g, c)
  | n + 1, g, c =>
    match c.rest with
    | [] => some (g, c)
    | ch :: _ =>
      if isSpace ch then
        if g.broken then
          if ch == '\t' && c.column < indent then none else read indent n g c.next
        else
          read indent n { g with spaces := g.spaces ++ [ch] } c.next
      else if isBreak ch then
        if g.broken then
          read indent n { g with others := g.others ++ [ch] } c.next
        else
          read indent n { g with broken := true, first := [ch] } c.next
      else
        some (g, c)

end Gap

structure ScalarRead where
  text : List Char
  cursor : Cursor
  -- Whether a line end was passed after the last character.
  atNewLine : Bool

-- The characters up to the next blank or to an end of a plain scalar. In a flow collection a colon
-- must not stand before a bracket or a comma.
def plainStretch (inFlow : Bool) : Nat → Cursor → Option (List Char × Cursor)
  | 0, c => some ([], c)
  | n + 1, c =>
    match c.rest with
    | [] => some ([], c)
    | ch :: _ =>
      if isSpace ch || isBreak ch then
        some ([], c)
      else if inFlow && ch == ':' && (c.at? 1).any (",?[]\x7b\x7d".toList.contains ·) then
        none
      else if (ch == ':' && c.isBlankAt 1) || (inFlow && ",[]\x7b\x7d".toList.contains ch) then
        some ([], c)
      else do
        let (cs, c) ← plainStretch inFlow n c.next
        return (ch :: cs, c)

-- The rest of a plain scalar, whose further lines have to be indented by `indent`. `gap` stands
-- before the cursor and is part of the scalar if more of it follows.
def plainScalar (inFlow : Bool) (indent : Nat) : Nat → Gap → Cursor → Option ScalarRead
  | 0, gap, c => some ⟨[], c, gap.broken⟩
  | n + 1, gap, c => do
    if c.atMarks '-' || c.atMarks '.' || c.rest.head? == some '#' then
      return ⟨[], c, gap.broken⟩
    let (cs, after) ← plainStretch inFlow n c
    let text := if cs.isEmpty then [] else gap.text ++ cs
    let gap := if cs.isEmpty then gap else .empty
    if !after.rest.isEmpty && after.isBlankAt 0 then
      let (gap, c) ← Gap.read indent n gap after
      if !inFlow && c.column < indent then
        return ⟨text, c, gap.broken⟩
      else
        let r ← plainScalar inFlow indent n gap c
        return { r with text := text ++ r.text }
    else
      return ⟨text, after, gap.broken⟩

def hexChar? (digits : List Char) (count : Nat) : Option Char := do
  let ds ← digits.mapM Json.hexValue?
  let n := ds.foldl (fun n d => n * 16 + d) 0
  if ds.length = count ∧ n.isValidChar then return Char.ofNat n else none

def escape? (s : List Char) : Option (Char × Nat) :=
  match s with
  | '0' :: _ => some ('\x00', 1)
  | 'a' :: _ => some ('\x07', 1)
  | 'b' :: _ => some ('\x08', 1)
  | 't' :: _ => some ('\t', 1)
  | '\t' :: _ => some ('\t', 1)
  | 'n' :: _ => some ('\n', 1)
  | 'v' :: _ => some ('\x0b', 1)
  | 'f' :: _ => some ('\x0c', 1)
  | 'r' :: _ => some ('\r', 1)
  | 'e' :: _ => some ('\x1b', 1)
  | ' ' :: _ => some (' ', 1)
  | '"' :: _ => some ('"', 1)
  | '/' :: _ => some ('/', 1)
  | '\\' :: _ => some ('\\', 1)
  | 'N' :: _ => some ('\u0085', 1)
  | '_' :: _ => some ('\u00a0', 1)
  | 'L' :: _ => some ('\u2028', 1)
  | 'P' :: _ => some ('\u2029', 1)
  | 'x' :: s => (hexChar? (s.take 2) 2).map (·, 3)
  | 'u' :: s => (hexChar? (s.take 4) 4).map (·, 5)
  | 'U' :: s => (hexChar? (s.take 8) 8).map (·, 9)
  | _ => none

def quotedScalar (mark : Char) : Nat → Cursor → Option (List Char × Cursor)
  | 0, _ => none
  | n + 1, c => do
    if c.atMarks '-' || c.atMarks '.' then
      none
    else
      match c.rest with
      | [] => none
      | ch :: s =>
        if isSpace ch || isBreak ch then
          let (gap, c) ← Gap.read 0 n .empty c
          let (cs, c) ← quotedScalar mark n c
          return (gap.text ++ cs, c)
        else if ch == mark then
          if mark == '\'' && s.head? == some '\'' then
            let (cs, c) ← quotedScalar mark n (c.skip 2)
            return ('\'' :: cs, c)
          else
            return ([], c.next)
        else if mark == '"' && ch == '\\' then
          if s.head?.any isBreak then
            let (gap, c) ← Gap.read 0 n .escaped (c.skip 2)
            let (cs, c) ← quotedScalar mark n c
            return (gap.text ++ cs, c)
          else
            let (e, length) ← escape? s
            let (cs, c) ← quotedScalar mark n (c.skip (length + 1))
            return (e :: cs, c)
        else
          let (cs, c) ← quotedScalar mark n c.next
          return (ch :: cs, c)

inductive Chomping where
  | strip
  | clip
  | keep
  deriving DecidableEq

-- The head of a block scalar after its mark: what becomes of its end, and by how much it is
-- indented, if that is said.
def blockHead (c : Cursor) : Option (Chomping × Option Nat × Cursor) := do
  let (marks, c) := c.span fun ch => ch == '+' || ch == '-' || ch.isDigit
  let chomping (ch : Char) : Chomping := if ch == '+' then .keep else .strip
  let digit? (ch : Char) : Option Nat :=
    if ch.isDigit && ch != '0' then some (ch.toNat - '0'.toNat) else none
  let (chomp, increment) ← match marks with
    | [] => some (Chomping.clip, none)
    | [a] => if a.isDigit then (digit? a).map (Chomping.clip, some ·) else some (chomping a, none)
    | [a, b] =>
      if a.isDigit && !b.isDigit then (digit? a).map (chomping b, some ·)
      else if !a.isDigit && b.isDigit then (digit? b).map (chomping a, some ·)
      else none
    | _ => none
  let c := c.skipSpaces
  let c := if c.rest.head? == some '#' then c.toLineEnd else c
  if c.atLineEnd then return (chomp, increment, c.next) else none

-- The empty lines that follow, and the greatest column that one of them reaches. Unless the
-- indentation is known, all blanks count to it.
def emptyLines (indent : Option Nat) : Nat → Nat → Cursor → Option (List Char × Nat × Cursor)
  | 0, widest, c => some ([], widest, c)
  | n + 1, widest, c => do
    let room := match indent with
      | some i => i - c.column
      | none => c.rest.length
    let c := c.skip (min room (c.rest.takeWhile (· == ' ')).length)
    let widest := max widest c.column
    match c.rest with
    | [] => return ([], widest, c)
    | ch :: _ =>
      if ch == '\t' && (indent.all (c.column < ·)) then
        none
      else if isBreak ch then
        let (breaks, widest, c) ← emptyLines indent n widest c.next
        return (ch :: breaks, widest, c)
      else
        return ([], widest, c)

-- The lines of a block, from the start of one. `ending` is the end of the line before, `breaks` the
-- empty lines since, and `spaced` says whether that line started with a blank.
def blockLines (literal : Bool) (indent : Nat) :
    Nat → List Char → List Char → Bool → Cursor →
      Option (List Char × List Char × List Char × Cursor)
  | 0, ending, breaks, _, c => some ([], ending, breaks, c)
  | n + 1, ending, breaks, spaced, c =>
    if c.column != indent || c.rest.isEmpty then
      some ([], ending, breaks, c)
    else do
      let startsSpaced := c.rest.head?.any isSpace
      let join :=
        if !literal && ending == ['\n'] && !spaced && !startsSpaced then
          if breaks.isEmpty then [' '] else []
        else
          ending
      let (line, after) := c.span (!isBreak ·)
      let (more, _, next) ← emptyLines (some indent) n 0 after.next
      let (text, ending, breaks', c) ← blockLines literal indent n (after.rest.take 1) more
        startsSpaced next
      return (join ++ breaks ++ line ++ text, ending, breaks', c)

def blockScalar (literal : Bool) (outer : Int) (c : Cursor) : Option (List Char × Cursor) := do
  let (chomp, increment, c) ← blockHead c
  let known := increment.map fun i => (if outer ≥ 0 then outer.toNat + i else i)
  let (breaks, widest, c) ← emptyLines known c.rest.length 0 c
  let indent := known.getD (max widest (max (outer + 1).toNat 1))
  let (text, ending, breaks, c) ← blockLines literal indent (c.rest.length + 1) [] breaks false c
  let last := match chomp with
    | .strip => []
    | .clip => ending
    | .keep => ending ++ breaks
  return (text ++ last, c)

end StateLint.Yaml
