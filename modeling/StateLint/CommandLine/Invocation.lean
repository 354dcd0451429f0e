namespace StateLint.CommandLine

def programName : String := "bgalint"
def version : String := "0.4.0"

def workspaceVariable : String := "BGA_WORKSPACE_PATH"

-- When to use colors. Whether the program writes to a terminal is not part of a run here: it is
-- taken never to do so, and `auto` comes to the same as `never`.
inductive ColorChoice where
  | auto
  | always
  | never
  deriving DecidableEq, Repr

inductive Format where
  | text
  | json
  deriving DecidableEq, Repr

def ColorChoice.ofWord? : String → Option ColorChoice
  | "auto" => some .auto
  | "always" => some .always
  | "never" => some .never
  | _ => none

def Format.ofWord? : String → Option Format
  | "text" => some .text
  | "json" => some .json
  | _ => none

structure Target where
  -- The directory of the project.
  directory : Option String
  -- The name of a game in the workspace.
  game : Option String
  deriving DecidableEq, Repr

inductive Command where
  | validate (target : Target) (format : Format) (strict : Bool)
  | migrationStatus (target : Target) (format : Format)
  | states (target : Target) (format : Format)
  | actions (target : Target)
  | games
  deriving DecidableEq, Repr

inductive CommandName where
  | validate
  | migrationStatus
  | states
  | actions
  | games
  deriving DecidableEq, Repr

namespace CommandName

def all : List CommandName := [validate, migrationStatus, states, actions, games]

def word : CommandName → String
  | validate => "validate"
  | migrationStatus => "migration-status"
  | states => "states"
  | actions => "actions"
  | games => "games"

def ofWord? (s : String) : Option CommandName :=
  all.find? (·.word = s)

def about : CommandName → String
  | validate => "Lint the state machine, actions and notifications"
  | migrationStatus => "Report progress of the move to State classes"
  | states => "List every state with its transitions"
  | actions => "List player actions"
  | games => "List game projects in the workspace"

end CommandName

structure Presentation where
  -- How much the user wants to know of what goes on, from 0 to 255.
  verbosity : Nat
  -- Only failures are told.
  quiet : Bool
  color : ColorChoice
  deriving DecidableEq, Repr

structure Invocation where
  command : Command
  presentation : Presentation
  workspace : Option String
  -- The file of the settings.
  settings : Option String
  deriving DecidableEq, Repr

end StateLint.CommandLine
