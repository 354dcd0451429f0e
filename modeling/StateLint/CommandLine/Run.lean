import StateLint.ActionListing
import StateLint.CommandLine.Arguments
import StateLint.CommandLine.Transcript
import StateLint.Json.Printer
import StateLint.Migration.Json
import StateLint.Outcome.Json
import StateLint.Overview
import StateLint.Project

namespace StateLint.CommandLine

def checked (fs : FileSystem) (settings : Option String) (sources : Sources) :
    Except Failure Outcome := do
  lint (← Settings.load fs settings) sources

def writtenOutcome (o : Outcome) (label : String) : Format → String
  | .text => o.report label
  | .json => (o.reportJson label).pretty

def writtenMigration (m : Migration) (label : String) : Format → String
  | .text => m.render label
  | .json => m.toJson.pretty

def writtenOverview (o : Overview) (label : String) : Format → String
  | .text => o.render label
  | .json => o.toJson.pretty

-- The tone of an outcome in numbers: it fails where `Outcome.verify` does.
def toneOf (o : Outcome) (strict : Bool) : Tone :=
  if (o.verify strict).toBool then if o.warnings > 0 then .warning else .success else .failure

def Target.read (t : Target) (fs : FileSystem) (workspace : Option String) :
    Except Failure (Project × Sources) :=
  Project.read fs t.directory t.game workspace

def listGames (fs : FileSystem) : Option String → Transcript
  | none => .stopped .noWorkspace
  | some workspace =>
    if fs.isDirectory workspace then
      .after ((gameListing fs workspace).mapError .fileSystem) fun
        | some listing => .printed listing
        | none => .told .warning s!"No BGA game projects found in {workspace}"
    else
      .stopped (.workspaceNotDirectory workspace)

def Command.run (fs : FileSystem) (workspace settings : Option String) : Command → Transcript
  | validate target format strict =>
    .after (target.read fs workspace) fun (project, sources) =>
      .told .info s!"Validating {project.root}" ++
        .after (checked fs settings sources) fun o =>
          .printed (writtenOutcome o project.name format) ++
            .told (toneOf o strict) o.verdict ++
            .after (o.verify strict) fun _ => .nothing
  | migrationStatus target format =>
    .after (target.read fs workspace) fun (project, sources) =>
      .after (Settings.load fs settings) fun s =>
        .printed (writtenMigration (.ofSources s sources) project.name format)
  | states target format =>
    .after (target.read fs workspace) fun (project, sources) =>
      .after (Overview.ofSources sources) fun o =>
        .printed (writtenOverview o project.name format)
  | actions target =>
    .after (target.read fs workspace) fun (project, sources) =>
      .after (ActionListing.render sources project.name) .printed
  | games => listGames fs workspace

structure Answer where
  exitCode : UInt32
  output : String
  errorOutput : String
  deriving DecidableEq, Repr

def Invocation.answer (i : Invocation) (fs : FileSystem) : Answer :=
  let t := i.command.run fs i.workspace i.settings
  ⟨if t.failed then 1 else 0, t.output, t.telling i.presentation⟩

def helpText (l : Level) : String :=
  let command := (l.map (·.word)).getD "<command>"
  let commands := if l.isSome then "" else
    "\nCommands:\n" ++ String.join (CommandName.all.map fun c => s!"  {c.word}: {c.about}\n")
  s!"Usage: {programName} {command} [options]\n{commands}\nOptions:\n" ++
    String.join (l.options.map line)
where
  line (o : OptionName) : String :=
    let letter := (o.short?.map fun c => s!", -{c}").getD ""
    s!"  --{o.long}{letter}\n"

def Interruption.answer : Interruption → Answer
  | help l => ⟨0, helpText l, ""⟩
  | version l => ⟨0, s!"{l.title} {CommandLine.version}\n", ""⟩
  | misuse e => ⟨2, "", s!"error: {e.message}\n"⟩

def run (fs : FileSystem) (inherited : Option String) (arguments : List String) : Answer :=
  match Invocation.ofArguments inherited arguments with
  | .ok i => i.answer fs
  | .error e => e.answer

end StateLint.CommandLine
