namespace StateLint.Yaml

def isBreak (c : Char) : Bool :=
  c == '\n' || c == '\u2028' || c == '\u2029'

def isSpace (c : Char) : Bool :=
  c == ' ' || c == '\t'

def isAllowed (c : Char) : Bool :=
  let n := c.toNat
  n == 0x09 || n == 0x0A || n == 0x0D || (0x20 ≤ n && n ≤ 0x7E) || n == 0x85 ||
    (0xA0 ≤ n && n ≤ 0xFFFD) || 0x10000 ≤ n

-- A text with a line feed for each carriage return, with or without a line feed, and for each
-- next-line character.
def unifyBreaks : List Char → List Char
  | [] => []
  | '\r' :: '\n' :: s => '\n' :: unifyBreaks s
  | c :: s => (if c == '\r' || c == '\u0085' then '\n' else c) :: unifyBreaks s

structure Cursor where
  rest : List Char
  -- How many bytes stand before it.
  index : Nat
  line : Nat
  column : Nat

namespace Cursor

def ofText? (s : String) : Option Cursor :=
  let cs := s.toList
  if cs.all isAllowed then some ⟨unifyBreaks cs, 0, 0, 0⟩ else none

def next (c : Cursor) : Cursor :=
  match c.rest with
  | [] => c
  | ch :: s =>
    let index := c.index + ch.utf8Size
    if isBreak ch then ⟨s, index, c.line + 1, 0⟩ else ⟨s, index, c.line, c.column + 1⟩

def skip (c : Cursor) : Nat → Cursor
  | 0 => c
  | n + 1 => c.next.skip n

def at? (c : Cursor) (n : Nat) : Option Char :=
  c.rest[n]?

def isBlankAt (c : Cursor) (n : Nat) : Bool :=
  match c.at? n with
  | none => true
  | some ch => isSpace ch || isBreak ch

def atLineEnd (c : Cursor) : Bool :=
  match c.rest with
  | [] => true
  | ch :: _ => isBreak ch

def atMarks (c : Cursor) (mark : Char) : Bool :=
  c.column == 0 && c.rest.take 3 == [mark, mark, mark] && c.isBlankAt 3

def span (c : Cursor) (p : Char → Bool) : List Char × Cursor :=
  let cs := c.rest.takeWhile p
  (cs, c.skip cs.length)

-- The place after a byte order mark that stands at the start of a line. The mark is as wide as any
-- character.
def skipOrderMark (c : Cursor) : Cursor :=
  if c.column == 0 && c.rest.head? == some '\uFEFF' then c.next else c

def skipSpaces (c : Cursor) : Cursor :=
  (c.span isSpace).2

def toLineEnd (c : Cursor) : Cursor :=
  (c.span (!isBreak ·)).2

end Cursor
end StateLint.Yaml
