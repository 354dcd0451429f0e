import StateLint.CommandLine.Invocation

namespace StateLint.CommandLine

inductive Flag where
  | verbose
  | quiet
  | strict
  | help
  | version
  deriving DecidableEq, Repr

inductive Parameter where
  | color
  | workspace
  | settings
  | project
  | game
  | format
  deriving DecidableEq, Repr

inductive OptionName where
  | flag (f : Flag)
  | parameter (p : Parameter)
  deriving DecidableEq, Repr

namespace OptionName

def long : OptionName → String
  | flag .verbose => "verbose"
  | flag .quiet => "quiet"
  | flag .strict => "strict"
  | flag .help => "help"
  | flag .version => "version"
  | parameter .color => "color"
  | parameter .workspace => "workspace"
  | parameter .settings => "config"
  | parameter .project => "project"
  | parameter .game => "game"
  | parameter .format => "format"

def short? : OptionName → Option Char
  | flag .verbose => some 'v'
  | flag .quiet => some 'q'
  | flag .help => some 'h'
  | flag .version => some 'V'
  | parameter .project => some 'p'
  | parameter .game => some 'g'
  | parameter .format => some 'f'
  | _ => none

def everywhere : List OptionName :=
  [flag .verbose, flag .quiet, parameter .color, parameter .workspace, parameter .settings,
    flag .help, flag .version]

end OptionName

-- Where an argument stands: before the name of the command, or after that of this one.
abbrev Level := Option CommandName

namespace Level

def ownOptions : Level → List OptionName
  | none | some .games => []
  | some .validate => [.parameter .project, .parameter .game, .parameter .format, .flag .strict]
  | some .migrationStatus | some .states =>
    [.parameter .project, .parameter .game, .parameter .format]
  | some .actions => [.parameter .project, .parameter .game]

def options (l : Level) : List OptionName :=
  ownOptions l ++ OptionName.everywhere

def long? (l : Level) (name : String) : Option OptionName :=
  (options l).find? (·.long = name)

def short? (l : Level) (letter : Char) : Option OptionName :=
  (options l).find? (·.short? = some letter)

def title : Level → String
  | none => programName
  | some c => s!"{programName}-{c.word}"

end Level
end StateLint.CommandLine
