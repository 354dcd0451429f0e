import StateLint.Text.Basic

namespace StateLint

inductive StateKind where
  | singlePlayer
  | multiPlayer
  -- A player in a private state beside the others.
  | privateState
  | automatic
  deriving DecidableEq, Repr

namespace StateKind

-- The kind that a declared type stands for, whatever its case. A type that is not known means that
-- the game acts.
def ofType (type : String) : StateKind :=
  let t := Text.asciiLower type.toList
  -- "multiple_active_player" contains "active_player" too
  if t = "multipleactiveplayer".toList || Text.mentions "multiple_active" t then multiPlayer
  else if t = "activeplayer".toList || Text.mentions "active_player" t then singlePlayer
  else if Text.mentions "private" t then privateState
  else automatic

def awaitsPlayers : StateKind → Bool
  | singlePlayer | multiPlayer => true
  | privateState | automatic => false

def label : StateKind → String
  | singlePlayer => "active player"
  | multiPlayer => "multiple active players"
  | privateState => "private"
  | automatic => "game"

end StateKind
end StateLint
