import StateLint.Text.Basic

namespace StateLint

structure Settings where
  -- The id of the state that sets the game up.
  initialId : UInt32
  -- The id of the state that ends the game.
  terminalId : UInt32
  -- How the initial state is called in a state array.
  setupName : String
  -- How the terminal state may be called in a state array.
  endNames : List String
  builtinNotifications : List String
  -- The codes of the rules that are switched off.
  disabledRules : List String
  deriving DecidableEq, Repr

inductive SettingsProblem where
  | sameReservedIds (id : UInt32)
  | emptySetupName
  | noEndNames
  deriving DecidableEq, Repr

def SettingsProblem.message : SettingsProblem → String
  | sameReservedIds id => s!"initial_state_id and terminal_state_id must differ (both are {id})"
  | emptySetupName => "setup_state_name must not be empty"
  | noEndNames => "end_state_names must list at least one name"

namespace Settings

def default : Settings where
  initialId := 1
  terminalId := 99
  setupName := "gameSetup"
  endNames := ["gameEnd", "GameEnd"]
  builtinNotifications := ["message", "tableWindow"]
  disabledRules := []

def withReservedIds (s : Settings) (initialId terminalId : UInt32) : Settings :=
  { s with initialId, terminalId }

def withDisabledRule (s : Settings) (code : String) : Settings :=
  { s with disabledRules := s.disabledRules ++ [code] }

def reservedIds (s : Settings) : List UInt32 :=
  [s.initialId, s.terminalId]

def isReserved (s : Settings) (id : UInt32) : Bool :=
  id = s.initialId || id = s.terminalId

-- Whether the rule of that code is left on. Codes are compared whatever their case.
def isEnabled (s : Settings) (code : String) : Bool :=
  s.disabledRules.all fun c => Text.asciiLower c.toList != Text.asciiLower code.toList

def isBuiltin (s : Settings) (notification : String) : Bool :=
  s.builtinNotifications.contains notification

def problem? (s : Settings) : Option SettingsProblem :=
  if s.initialId = s.terminalId then some (.sameReservedIds s.initialId)
  else if s.setupName.isEmpty then some .emptySetupName
  else if s.endNames.isEmpty then some .noEndNames
  else none

end Settings
end StateLint
