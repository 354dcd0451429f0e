import StateLint.CommandLine.Options

namespace StateLint.CommandLine

inductive UsageError where
  -- There is nothing at all on it.
  | nothingGiven
  | noCommand
  | unknownCommand (text : String)
  | unknownArgument (text : String)
  -- A parameter lacks its value, or has one that it cannot have.
  | badValue (p : Parameter) (value : Option String)
  -- An option stands twice on the same side of the command.
  | repeated (o : OptionName)
  -- A flag has a value.
  | unneededValue (f : Flag)
  deriving DecidableEq, Repr

def UsageError.message : UsageError → String
  | nothingGiven | noCommand => "a command is required"
  | unknownCommand text => s!"unrecognized command '{text}'"
  | unknownArgument text => s!"unexpected argument '{text}'"
  | badValue p none => s!"a value is required for '--{(OptionName.parameter p).long}'"
  | badValue p (some value) => s!"invalid value '{value}' for '--{(OptionName.parameter p).long}'"
  | repeated o => s!"the argument '--{o.long}' cannot be used multiple times"
  | unneededValue f => s!"no value is expected for '--{(OptionName.flag f).long}'"

inductive Interruption where
  | help (level : Level)
  | version (level : Level)
  | misuse (e : UsageError)
  deriving DecidableEq, Repr

abbrev ReadM := Except Interruption

def misuse {α : Type} (e : UsageError) : ReadM α :=
  throw (.misuse e)

structure Given where
  verbosity : Nat := 0
  quiet : Bool := false
  strict : Bool := false
  color : Option ColorChoice := none
  workspace : Option String := none
  settings : Option String := none
  project : Option String := none
  game : Option String := none
  format : Option Format := none
  deriving DecidableEq, Repr

namespace Given

def withFlag (g : Given) (level : Level) : Flag → ReadM Given
  | .help => throw (.help level)
  | .version => throw (.version level)
  | .verbose => return { g with verbosity := min 255 (g.verbosity + 1) }
  | .quiet => if g.quiet then misuse (.repeated (.flag .quiet)) else return { g with quiet := true }
  | .strict =>
    if g.strict then misuse (.repeated (.flag .strict)) else return { g with strict := true }

def first {α : Type} (p : Parameter) (old : Option α) (value : String)
    (value? : String → Option α) :
    ReadM (Option α) :=
  match old, value? value with
  | some _, _ => misuse (.repeated (.parameter p))
  | none, some new => return some new
  | none, none => misuse (.badValue p (some value))

def path? (value : String) : Option String :=
  if value.isEmpty then none else some value

def withValue (g : Given) (value : String) : Parameter → ReadM Given
  | .color => return { g with color := ← first .color g.color value ColorChoice.ofWord? }
  | .workspace => return { g with workspace := ← first .workspace g.workspace value path? }
  | .settings => return { g with settings := ← first .settings g.settings value path? }
  | .project => return { g with project := ← first .project g.project value path? }
  | .game => return { g with game := ← first .game g.game value some }
  | .format => return { g with format := ← first .format g.format value Format.ofWord? }

end Given

-- A parameter whose value follows as an argument of its own. Such a value is looked at when the
-- next option comes, or at the end, so a fault in what stands between is told first.
structure Pending where
  parameter : Parameter
  -- The value, once it has come.
  value : Option String

structure Progress where
  given : Given
  pending : Option Pending

namespace Progress

def start : Progress := ⟨{}, none⟩

-- Whether the next argument is a value, unless it is an option.
def awaitsValue (s : Progress) : Bool :=
  s.pending.any (·.value.isNone)

def settled (s : Progress) : ReadM Given :=
  match s.pending with
  | none => return s.given
  | some ⟨p, none⟩ => misuse (.badValue p none)
  | some ⟨p, some value⟩ => s.given.withValue value p

def flag (s : Progress) (level : Level) (f : Flag) : ReadM Progress := do
  return ⟨← (← s.settled).withFlag level f, none⟩

def attached (s : Progress) (p : Parameter) (value : String) : ReadM Progress := do
  return ⟨← (← s.settled).withValue value p, none⟩

def awaiting (s : Progress) (p : Parameter) : ReadM Progress := do
  return ⟨← s.settled, some ⟨p, none⟩⟩

def supplied (s : Progress) (value : String) : Progress :=
  { s with pending := s.pending.map fun p => { p with value := some value } }

def long (s : Progress) (level : Level) (name : String) (value : Option String) : ReadM Progress :=
  match level.long? name, value with
  | none, _ => misuse (.unknownArgument ("--" ++ name))
  | some (.flag f), none => s.flag level f
  | some (.flag f), some _ => misuse (.unneededValue f)
  | some (.parameter p), some value => s.attached p value
  | some (.parameter p), none => s.awaiting p

-- Options have come as a cluster of letters. What follows the letter of a parameter is its value.
def letters (s : Progress) (level : Level) : List Char → ReadM Progress
  | [] => return s
  | c :: cs =>
    match level.short? c with
    | none => misuse (.unknownArgument (String.ofList ['-', c]))
    | some (.flag f) => do (← s.flag level f).letters level cs
    | some (.parameter p) =>
      match cs with
      | [] => s.awaiting p
      | '=' :: value => s.attached p (.ofList value)
      | value => s.attached p (.ofList value)

end Progress

inductive Argument where
  -- Two dashes alone, after which there are no options.
  | separator
  | long (name : String) (value : Option String)
  | letters (cs : List Char)
  | plain

def Argument.ofText (text : String) : Argument :=
  match text.toList with
  | ['-', '-'] => .separator
  | '-' :: '-' :: rest =>
    match rest.dropWhile (· != '=') with
    | [] => .long (.ofList rest) none
    | _ :: value => .long (.ofList (rest.takeWhile (· != '='))) (some (.ofList value))
  | '-' :: c :: cs => .letters (c :: cs)
  | _ => .plain

def stray {α : Type} (level : Level) (text : String) : ReadM α :=
  misuse (if level.isNone then .unknownCommand text else .unknownArgument text)

def helpWord : String := "help"

-- Arguments after the separator have no use.
def afterSeparator {α : Type} (level : Level) (stop : α) : List String → ReadM α
  | [] => return stop
  | text :: _ =>
    if level.isNone && (text = helpWord || (CommandName.ofWord? text).isSome)
      then misuse (.unknownArgument text)
    else stray level text

def helpOn : List String → Interruption
  | [] => .help none
  | [text] =>
    match CommandName.ofWord? text with
    | some c => .help (some c)
    | none => if text = helpWord then .help none else .misuse (.unknownCommand text)
  | text :: next :: _ =>
    if text = helpWord || (CommandName.ofWord? text).isSome then .misuse (.unknownCommand next)
    else .misuse (.unknownCommand text)

-- What has been read on one side of the command. Only before the command can there be a command and
-- further arguments.
structure Side where
  progress : Progress
  next : Option (CommandName × List String)

def readSide (level : Level) (s : Progress) : List String → ReadM Side
  | [] => return ⟨s, none⟩
  | text :: rest =>
    let command := if level.isNone && !s.awaitsValue then CommandName.ofWord? text else none
    match command with
    | some c => return ⟨s, some (c, rest)⟩
    | none =>
      if level.isNone && !s.awaitsValue && text = helpWord then
        throw (helpOn rest)
      else
        match Argument.ofText text with
        | .separator => afterSeparator level ⟨s, none⟩ rest
        | .long name value => do readSide level (← s.long level name value) rest
        | .letters cs => do readSide level (← s.letters level cs) rest
        | .plain =>
          if s.awaitsValue then readSide level (s.supplied text) rest else stray level text

def Side.finish (side : Side) (inherited : Option String) : ReadM (Given × Option String) := do
  let given ← side.progress.settled
  match given.workspace, inherited with
  | none, some value =>
    match Given.path? value with
    | some path => return (given, some path)
    | none => misuse (.badValue .workspace (some value))
  | _, _ => return (given, none)

def CommandName.command (c : CommandName) (g : Given) : Command :=
  let target : Target := ⟨g.project, g.game⟩
  let format := g.format.getD .text
  match c with
  | validate => .validate target format g.strict
  | migrationStatus => .migrationStatus target format
  | states => .states target format
  | actions => .actions target
  | games => .games

-- The options that may stand on both sides. Those after the command win, and counts are not added
-- up.
def Presentation.ofSides (before after : Given) : Presentation where
  verbosity := if after.verbosity > 0 then after.verbosity else before.verbosity
  quiet := after.quiet || before.quiet
  color := (after.color.or before.color).getD .auto

def Invocation.ofArguments (inherited : Option String) (arguments : List String) :
    ReadM Invocation := do
  let side ← readSide none .start arguments
  match side.next with
  | none =>
    let (given, fallback) ← side.finish inherited
    misuse (if given = {} && fallback.isNone then .nothingGiven else .noCommand)
  | some (name, rest) =>
    let (after, _) ← (← readSide (some name) .start rest).finish inherited
    let (before, _) ← side.finish inherited
    return {
      command := name.command after
      presentation := .ofSides before after
      workspace := (after.workspace.or before.workspace).or inherited
      settings := after.settings.or before.settings
    }

end StateLint.CommandLine
