import StateLint.Json.Record
import StateLint.Settings

namespace StateLint.Settings

open Json

def toJson (s : Settings) : Json :=
  obj [("initial_state_id", nat s.initialId.toNat), ("terminal_state_id", nat s.terminalId.toNat),
    ("setup_state_name", str s.setupName), ("end_state_names", strs s.endNames),
    ("builtin_notifications", strs s.builtinNotifications),
      ("disabled_checks", strs s.disabledRules)]

def ofJson? (j : Json) : Option Settings := do
  let r ← j.toRecord? 6
  return {
    initialId := ← r.defaulted 0 "initial_state_id" toUInt32? default.initialId
    terminalId := ← r.defaulted 1 "terminal_state_id" toUInt32? default.terminalId
    setupName := ← r.defaulted 2 "setup_state_name" toStr? default.setupName
    endNames := ← r.defaulted 3 "end_state_names" (toList? toStr?) default.endNames
    builtinNotifications :=
      ← r.defaulted 4 "builtin_notifications" (toList? toStr?) default.builtinNotifications
    disabledRules := ← r.defaulted 5 "disabled_checks" (toList? toStr?) default.disabledRules
  }

end StateLint.Settings
