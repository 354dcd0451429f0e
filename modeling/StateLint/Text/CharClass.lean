import StateLint.Text.WordRanges
import StateLint.Text.DigitRanges

namespace StateLint.Text

def isBlank (c : Char) : Bool :=
  let n := c.toNat
  (9 ≤ n && n ≤ 13) || n == 0x20 || n == 0x85 || n == 0xA0 || n == 0x1680 ||
    (0x2000 ≤ n && n ≤ 0x200A) || n == 0x2028 || n == 0x2029 || n == 0x202F || n == 0x205F ||
    n == 0x3000

def isDigit (c : Char) : Bool :=
  if c.toNat < 0x80 then c.isDigit else digitRanges.contains c.toNat

-- A character that names are made of: alphabetic characters, marks, decimal digits, connecting
-- punctuation such as the low line, and the two joining controls. As with digits, a plain test
-- decides on ASCII, so that a statement about ASCII text never meets the tables.
def isWord (c : Char) : Bool :=
  if c.toNat < 0x80 then c.isAlphanum || c == '_' else wordRanges.contains c.toNat

theorem isDigit_ascii {c : Char} (h : c.toNat < 0x80) : isDigit c = c.isDigit := by
  simp [isDigit, h]

theorem isWord_ascii {c : Char} (h : c.toNat < 0x80) : isWord c = (c.isAlphanum || c == '_') := by
  simp [isWord, h]

end StateLint.Text
