import StateLint.ClientScript
import StateLint.Diagnostic
import StateLint.ServerScript
import StateLint.Settings
import StateLint.Sources
import StateLint.State.Definition

namespace StateLint.Checks

-- The normal names of all actions that the server has: those that states declare, then those of the
-- main script.
def knownActions (sources : Sources) (states : List StateDefinition) : List String :=
  (states.flatMap (·.actions.map Action.normalName) ++
    sources.mainScript.toList.flatMap fun f =>
      (ServerScript.playerActions f.text).map (·.normalName)).eraseDups

def unknownAction (client : SourceFile) (name : String) : Diagnostic :=
  Rule.unknownAction.finding client.path
    s!"JS calls `bgaPerformAction('{name}', ...)` but no matching `{Action.method name}` PHP method was found."

def uncalledAction (client : SourceFile) (action : String) : Diagnostic :=
  Rule.uncalledAction.finding client.path
    s!"PHP action `{Action.method action}` has no corresponding `bgaPerformAction('{action}', ...)` call in `{client.fileName}`."

-- The called actions that the server does not have, then the actions that are not called. If the
-- client calls none at all, it calls them in a way that cannot be seen, and nothing is said of
-- those.
def actionFindings (sources : Sources) (states : List StateDefinition) : List Diagnostic :=
  sources.clientScript.toList.flatMap fun client =>
    let called := ClientScript.calledActions client.text
    let known := knownActions sources states
    let normal := called.map Action.normalName
    (called.filter fun name => Action.normalName name ∉ known).map (unknownAction client) ++
      if called.isEmpty then [] else (known.filter (· ∉ normal)).map (uncalledAction client)

def sentNotifications (sources : Sources) : List String :=
  (sources.serverFiles.flatMap fun f => ServerScript.sentNotifications f.text).eraseDups

def unhandledNotification (client : SourceFile) (name : String) : Diagnostic :=
  Rule.unhandledNotification.finding client.path
    s!"PHP sends notification `'{name}'` but no JS handler was found in `{client.fileName}`."

def unsentNotification (client : SourceFile) (name : String) : Diagnostic :=
  Rule.unsentNotification.finding client.path
    s!"JS handles notification `'{name}'` but no PHP `notify->all` / `notifyAllPlayers` call was found for it."

def notificationFindings (settings : Settings) (sources : Sources) : List Diagnostic :=
  sources.clientScript.toList.flatMap fun client =>
    let handled := ClientScript.handledNotifications client.text
    let sent := sentNotifications sources
    (sent.filter fun name => !settings.isBuiltin name && name ∉ handled).map
      (unhandledNotification client) ++ (handled.filter (· ∉ sent)).map (unsentNotification client)

def progressionStub (main : SourceFile) : Diagnostic :=
  Rule.progressionStub.finding main.path
    "`getGameProgression()` always returns `0`, so the progress bar will never advance."

def progressionFindings (sources : Sources) : List Diagnostic :=
  (sources.mainScript.toList.filter fun f => ServerScript.progressionIsStub f.text).map
    progressionStub

end StateLint.Checks
