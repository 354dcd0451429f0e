namespace StateLint.Text.Utf8

-- A character of which some bytes are still to come: its bits so far, the bounds of the next byte,
-- and how many bytes come after that one.
structure Pending where
  bits : Nat
  low : UInt8
  high : UInt8
  more : Nat

inductive Lead where
  | whole (c : Char)
  | part (p : Pending)
  | invalid

-- What a byte starts. The bounds of the second byte rule out codes that are longer than needed,
-- surrogates and numbers above the last code point.
def lead (b : UInt8) : Lead :=
  let n := b.toNat
  if n < 0x80 then .whole (Char.ofNat n)
  else if n < 0xC2 then .invalid
  else if n < 0xE0 then .part ⟨n - 0xC0, 0x80, 0xBF, 0⟩
  else if n = 0xE0 then .part ⟨0, 0xA0, 0xBF, 1⟩
  else if n = 0xED then .part ⟨0xD, 0x80, 0x9F, 1⟩
  else if n < 0xF0 then .part ⟨n - 0xE0, 0x80, 0xBF, 1⟩
  else if n = 0xF0 then .part ⟨0, 0x90, 0xBF, 2⟩
  else if n < 0xF4 then .part ⟨n - 0xF0, 0x80, 0xBF, 2⟩
  else if n = 0xF4 then .part ⟨4, 0x80, 0x8F, 2⟩
  else .invalid

-- The characters of some bytes, and the gaps between them: one for each longest stretch of bytes
-- that could start a character, and one for each byte that could not.
def decode (bytes : List UInt8) : List (Option Char) :=
  go none bytes
where
  go : Option Pending → List UInt8 → List (Option Char)
    | none, [] => []
    | some _, [] => [none]
    | none, b :: bs =>
      match lead b with
      | .whole c => some c :: go none bs
      | .part p => go (some p) bs
      | .invalid => none :: go none bs
    | some p, b :: bs =>
      if p.low ≤ b ∧ b ≤ p.high then
        let bits := p.bits * 64 + b.toNat % 64
        match p.more with
        | 0 => some (Char.ofNat bits) :: go none bs
        | n + 1 => go (some ⟨bits, 0x80, 0xBF, n⟩) bs
      else
        match lead b with
        | .whole c => none :: some c :: go none bs
        | .part p => none :: go (some p) bs
        | .invalid => none :: none :: go none bs

def textOf (bytes : List UInt8) : String :=
  .ofList ((decode bytes).map (·.getD '\uFFFD'))

def text? (bytes : List UInt8) : Option String :=
  ((decode bytes).mapM id).map .ofList

end StateLint.Text.Utf8
