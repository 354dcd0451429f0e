import StateLint.Model
import StateLint.Report
import StateLint.ServerScript
import StateLint.Settings

namespace StateLint

open Text Reader

inductive MigrationStatus where
  -- Only newer forms.
  | fullyMigrated
  -- Only older forms.
  | notStarted
  -- Both or neither.
  | partiallyMigrated
  deriving DecidableEq, Repr

def MigrationStatus.label : MigrationStatus → String
  | fullyMigrated => "Fully migrated to State classes"
  | notStarted => "Not yet started"
  | partiallyMigrated => "Partially migrated"

structure Migration where
  status : MigrationStatus
  -- Newer forms that are in place.
  modern : List String
  -- Older forms that are left.
  pending : List String
  details : List String
  deriving DecidableEq, Repr

-- What one file or group of files adds to a report.
structure MigrationNotes where
  modern : List String
  pending : List String
  details : List String
  deriving DecidableEq, Repr

namespace MigrationNotes

def nothing : MigrationNotes := ⟨[], [], []⟩
def modernNote (text : String) : MigrationNotes := ⟨[text], [], []⟩
def pendingNote (text : String) : MigrationNotes := ⟨[], [text], []⟩
def detail (text : String) : MigrationNotes := ⟨[], [], [text]⟩

def append (m n : MigrationNotes) : MigrationNotes :=
  ⟨m.modern ++ n.modern, m.pending ++ n.pending, m.details ++ n.details⟩

instance : Append MigrationNotes := ⟨append⟩

def ifAny (count : Nat) (note : MigrationNotes) : MigrationNotes :=
  if count > 0 then note else nothing

end MigrationNotes

namespace Migration

open MigrationNotes

def occurrences (shape : Reader Unit) (text : String) : Nat :=
  (shape.anywhere.places text.toList).length

def callOf (name : String) : Reader Unit := do
  literal name
  blanks
  literal "("

def nextStateCall : Reader Unit := do
  literal "gamestate"
  blanks
  literal "->"
  blanks
  callOf "nextState"

def stateArrayNotes (settings : Settings) : Option SourceFile → MigrationNotes
  | some file =>
    let convertible :=
      (StateArray.states file.text file.path).filter fun s => !settings.isReserved s.id
    let listed := ", ".intercalate (convertible.map fun s => s!"`{s.name}` (id={s.id})")
    pendingNote (s!"`{file.path}` exists: states are defined as legacy PHP arrays. " ++
        "Each non-reserved state should become a State class.") ++
      if convertible.isEmpty then nothing else detail s!"States to convert: {listed}"
  | none =>
    modernNote "`states.inc.php` not found: states are likely managed by State classes already."

def classDirectoryNotes (sources : Sources) : MigrationNotes :=
  match sources.classDirectory with
  | some directory =>
    if sources.stateClasses.isEmpty then
      detail s!"`{directory}` directory exists but is empty: no State classes yet."
    else
      let names := ", ".intercalate (sources.stateClasses.map fun f => s!"`{f.fileName}`")
      modernNote
        s!"`{directory}` exists with {sources.stateClasses.length} State class file(s): {names}"
  | none =>
    ifAny (sources.stateArray.toList.flatMap fun f => StateArray.states f.text f.path).length <|
      pendingNote "`modules/php/States/` directory does not exist: create it and add State classes."

def setupNotes (file : SourceFile) : MigrationNotes :=
  match ServerScript.setupReturn? file.text with
  | some value =>
    if mentions "::class" value.toList then
      modernNote s!"`{file.fileName}`: `setupNewGame` returns `{value}`"
    else
      pendingNote (s!"`{file.fileName}`: `setupNewGame` does not return an initial State class. " ++
        "Modern pattern: `return PlayerTurn::class;`")
  | none =>
    if mentions "setupNewGame" file.text.toList then
      pendingNote (s!"`{file.fileName}`: `setupNewGame` has no `return` statement. " ++
        "Modern pattern: `return PlayerTurn::class;`")
    else
      nothing

def mainScriptNotes (file : SourceFile) : MigrationNotes :=
  let checks := occurrences (callOf "checkAction") file.text
  let changes := occurrences nextStateCall file.text
  let markers := StateClass.markerCount file.text
  ifAny checks (pendingNote (s!"`{file.fileName}` contains {checks} `checkAction()` call(s). " ++
      "Move actions into State classes with `#[PossibleAction]`.")) ++
    ifAny changes
      (pendingNote (s!"`{file.fileName}` calls `gamestate->nextState()` {changes} time(s). " ++
      "State class actions should return a transition string or class name directly.")) ++
    setupNotes file ++
    ifAny markers
      (modernNote s!"`{file.fileName}` uses `#[PossibleAction]` ({markers} occurrence(s))")

def classMarkerNotes (files : List SourceFile) : MigrationNotes :=
  let markers := files.foldl (fun n f => n + StateClass.markerCount f.text) 0
  ifAny markers (modernNote s!"State class files contain {markers} `#[PossibleAction]` method(s)")

def clientScriptNotes (file : SourceFile) : MigrationNotes :=
  let subscriptions := occurrences (literal "notifqueue.subscribe") file.text
  let promises := occurrences (literal "bgaSetupPromiseNotifications") file.text
  let ajaxCalls := occurrences (callOf "ajaxcall") file.text
  let actionCalls := occurrences (callOf "bgaPerformAction") file.text
  ifAny subscriptions
    (pendingNote (s!"`{file.fileName}` uses `notifqueue.subscribe` ({subscriptions} call(s)). " ++
      "Replace with `bgaSetupPromiseNotifications(\x7b ... \x7d)`.")) ++
    ifAny promises
      (modernNote s!"`{file.fileName}` uses `bgaSetupPromiseNotifications` ({promises} call(s))") ++
    ifAny ajaxCalls (pendingNote (s!"`{file.fileName}` uses `ajaxcall()` ({ajaxCalls} call(s)). " ++
      "Replace with `bgaPerformAction('actionName', \x7b ... \x7d)`.")) ++
    ifAny actionCalls
      (modernNote s!"`{file.fileName}` uses `bgaPerformAction` ({actionCalls} call(s))")

def notes (settings : Settings) (sources : Sources) : MigrationNotes :=
  stateArrayNotes settings sources.stateArray ++
    classDirectoryNotes sources ++
    (sources.mainScript.map mainScriptNotes).getD nothing ++
    classMarkerNotes sources.stateClasses ++
    (sources.clientScript.map clientScriptNotes).getD nothing

def statusOf (modern pending : List String) : MigrationStatus :=
  match modern.isEmpty, pending.isEmpty with
  | false, true => .fullyMigrated
  | true, false => .notStarted
  | _, _ => .partiallyMigrated

def ofSources (settings : Settings) (sources : Sources) : Migration :=
  let n := notes settings sources
  ⟨statusOf n.modern n.pending, n.modern, n.pending, n.details⟩

def statusLine (m : Migration) : String :=
  match m.status with
  | .fullyMigrated => s!"✓ Status: {m.status.label}"
  | .notStarted => s!"✗ Status: {m.status.label}, no modern patterns detected"
  | .partiallyMigrated => s!"⚠ Status: {m.status.label}, {m.pending.length} issue(s) remaining"

def listing (heading symbol : String) (items : List String) : String :=
  if items.isEmpty then
    ""
  else
    s!"{heading}:\n" ++ String.join (items.map fun item => s!"  {symbol} {item}\n") ++ "\n"

def render (m : Migration) (label : String) : String :=
  s!"MIGRATION STATUS: {label}\n{ruleLine}\n\n{m.statusLine}\n\n" ++
    listing "Already modern" "✓" m.modern ++ listing "Details" "-" m.details ++
      listing "Needs migration" "⚠" m.pending

end Migration
end StateLint
