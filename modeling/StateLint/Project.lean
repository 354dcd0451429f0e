import StateLint.Failure
import StateLint.FileSystem.Path
import StateLint.Settings.Yaml
import StateLint.Sources
import StateLint.Text.Utf8

namespace StateLint

def stateArrayFile : String := "states.inc.php"

def stateClassDirectory : String := "modules/php/States"

-- Where the main script may be, from the root of a game, if it is not in the root.
def innerMainScript : String := "modules/php/Game.php"

structure GameTags where
  mainScript : Bool
  stateArray : Bool
  stateClasses : Bool
  deriving DecidableEq, Repr

namespace GameTags

-- The tags of a directory. One that cannot be listed has none but that of the state classes.
def ofDirectory (fs : FileSystem) (path : String) : GameTags :=
  let files := (fs.names .file path).toOption.getD []
  { mainScript := files.any (·.endsWith ".game.php")
    stateArray := files.contains stateArrayFile
    stateClasses := fs.isDirectory (Path.join path stateClassDirectory) }

def isGame (t : GameTags) : Bool :=
  t.mainScript || t.stateArray || t.stateClasses

def labels (t : GameTags) : List String :=
  (if t.mainScript then ["game.php"] else []) ++
    (if t.stateArray then [stateArrayFile] else []) ++
    if t.stateClasses then ["State classes"] else []

end GameTags

def games (fs : FileSystem) (workspace : String) : Except FileError (List String) := do
  return (← fs.names .directory workspace).filter fun name =>
    (GameTags.ofDirectory fs (Path.join workspace name)).isGame

structure Project where
  name : String
  root : String
  deriving DecidableEq, Repr

namespace Project

def ofDirectory (fs : FileSystem) (root : String) : Except Failure Project :=
  if fs.isDirectory root then return ⟨(Path.fileName? root).getD root, root⟩
    else throw (.noProjectDirectory root)

def ofGame (fs : FileSystem) (workspace game : String) : Except Failure Project :=
  let root := Path.join workspace game
  if fs.isDirectory root then return ⟨game, root⟩ else throw (.noSuchGame game workspace)

def ofWorkspace (fs : FileSystem) (workspace : String) : Except Failure Project := do
  match ← (games fs workspace).mapError Failure.fileSystem with
  | [] => throw (.noGames workspace)
  | [only] => return ⟨only, Path.join workspace only⟩
  | several => throw (.severalGames several)

-- The project that is meant: the one that is named outright, else a game of the workspace, else its
-- only one.
def select (fs : FileSystem) (directory game workspace : Option String) : Except Failure Project :=
  match directory, workspace, game with
  | some root, _, _ => ofDirectory fs root
  | none, none, _ => throw .noSelection
  | none, some workspace, some game => ofGame fs workspace game
  | none, some workspace, none => ofWorkspace fs workspace

end Project

namespace Sources

def readFile (fs : FileSystem) (path label : String) : Except UnreadableFile SourceFile :=
  match fs.read path with
  | .ok bytes => return ⟨label, Text.Utf8.textOf bytes⟩
  | .error e => throw ⟨label, e.message⟩

def readable (results : List (Except UnreadableFile SourceFile)) : List SourceFile :=
  results.filterMap (·.toOption)

def failed (results : List (Except UnreadableFile SourceFile)) : List UnreadableFile :=
  results.filterMap fun
    | .error f => some f
    | .ok _ => none

def isClientScript (name : String) : Bool :=
  name.endsWith ".js" && !Text.mentions ".min." name.toList && name != "Gruntfile.js"

def mainScriptName? (files : List String) : Option String :=
  (files.find? (· = "Game.php")).or (files.find? (·.endsWith ".game.php"))

def loadClasses (fs : FileSystem) (root : String) :
    Except FileError (Option (List (Except UnreadableFile SourceFile))) := do
  let directory := Path.join root stateClassDirectory
  if fs.isDirectory directory then
    let files := (← fs.names .file directory).filter (·.endsWith ".php")
    return some (files.map fun name =>
      readFile fs (Path.join directory name) (stateClassDirectory ++ "/" ++ name))
  else
    return none

def load (fs : FileSystem) (root : String) : Except FileError Sources := do
  let files ← fs.names .file root
  let classes ← loadClasses fs root
  let read (name : String) := readFile fs (Path.join root name) name
  let array := (files.filter (· = stateArrayFile)).map read
  let client := (files.find? isClientScript).toList.map read
  let mainName := mainScriptName? files
  let main :=
    match mainName with
    | some name => [read name]
    | none => if fs.isFile (Path.join root innerMainScript) then [read innerMainScript] else []
  let others := (files.filter fun name =>
    name.endsWith ".php" && name != stateArrayFile && some name != mainName).map read
  return {
    stateArray := (readable array).head?
    stateClasses := readable (classes.getD [])
    classDirectory := classes.map fun _ => stateClassDirectory ++ "/"
    clientScript := (readable client).head?
    mainScript := (readable main).head?
    serverScripts := readable others
    unreadable := failed (array ++ classes.getD [] ++ client ++ main ++ others)
  }

end Sources

def Settings.ofFile (fs : FileSystem) (path : String) : Except SettingsFailure Settings :=
  match fs.read path with
  | .error e => throw (.unreadable e)
  | .ok bytes =>
    match Text.Utf8.text? bytes with
    | some text => ofYaml text
    | none => throw (.unreadable .notText)

def Settings.load (fs : FileSystem) : Option String → Except Failure Settings
  | some path => (ofFile fs path).mapError (Failure.settingsFile path)
  | none => return .default

def Project.read (fs : FileSystem) (directory game workspace : Option String) :
    Except Failure (Project × Sources) := do
  let project ← select fs directory game workspace
  return (project, ← (Sources.load fs project.root).mapError Failure.fileSystem)

def gameListing (fs : FileSystem) (workspace : String) : Except FileError (Option String) := do
  let names ← games fs workspace
  let width := (names.map (·.utf8ByteSize)).foldl max 0
  let line (name : String) : String :=
    let labels := ", ".intercalate (GameTags.ofDirectory fs (Path.join workspace name)).labels
    name ++ String.ofList (List.replicate (width - name.length) ' ') ++ s!"  [{labels}]\n"
  return if names.isEmpty then none
    else some (String.join (names.map line) ++ s!"\n{names.length} game(s) in {workspace}\n")

end StateLint
