import StateLint.FileSystem.Basic
import StateLint.Settings

namespace StateLint

inductive SettingsFailure where
  | unreadable (e : FileError)
  -- The text is not written as settings are.
  | malformed
  | unfit (p : SettingsProblem)
  deriving DecidableEq, Repr

inductive Failure where
  -- No state was found in any of these places.
  | noStates (locations : List String)
  | settings (f : SettingsFailure)
  | settingsFile (path : String) (f : SettingsFailure)
  | fileSystem (e : FileError)
  | noProjectDirectory (path : String)
  -- Neither a project nor a workspace was named.
  | noSelection
  | noSuchGame (game workspace : String)
  | noGames (workspace : String)
  | severalGames (games : List String)
  -- A game has neither a main script nor states.
  | noActions (label : String)
  | noWorkspace
  | workspaceNotDirectory (path : String)
  | checksFailed (errors warnings : Nat)
  deriving DecidableEq, Repr

-- The reason in words. Where a text is malformed, the words end before what is wrong with it.
def SettingsFailure.message : SettingsFailure → String
  | unreadable e => s!"I/O error: {e.message}"
  | malformed => "Failed to parse configuration: "
  | unfit p => s!"Configuration error: {p.message}"

def Failure.message : Failure → String
  | noStates locations =>
    let checked := if locations.isEmpty then "nothing" else ", ".intercalate locations
    s!"No state definitions found (checked: {checked}). Is this a valid BGA project directory?"
  | settings f => f.message
  | settingsFile path f => s!"Configuration error: {path}: {f.message}"
  | fileSystem e => s!"I/O error: {e.message}"
  | noProjectDirectory path => s!"Project directory `{path}` does not exist"
  | noSelection =>
    "No --project or --game given and no workspace configured. Pass --project <dir>, or set --workspace / " ++
      "BGA_WORKSPACE_PATH."
  | noSuchGame game workspace => s!"Game `{game}` not found in workspace `{workspace}`"
  | noGames workspace => s!"No BGA game projects found in `{workspace}`"
  | severalGames games =>
    let names := ", ".intercalate games
    s!"Multiple BGA games found in the workspace ({names}). " ++
      "Pass --game <name> (use `bgalint games` to see available games)."
  | noActions label =>
    s!"No main logic file (Game.php or *.game.php) and no state definitions found in `{label}`"
  | noWorkspace =>
    "Configuration error: No workspace configured. Pass --workspace <dir> or set BGA_WORKSPACE_PATH."
  | workspaceNotDirectory path => s!"Configuration error: Workspace `{path}` is not a directory"
  | checksFailed errors warnings => s!"Validation failed: {errors} error(s), {warnings} warning(s)"

end StateLint
