import StateLint.Diagnostic
import StateLint.Settings
import StateLint.Sources
import StateLint.State.Definition
import StateLint.StateClass

namespace StateLint.Checks

open Text

def missingZombie (s : StateDefinition) : Diagnostic :=
  Rule.missingZombie.finding s.location
    s!"State class `{s.name}` (id={s.id}) is a player state but has no `zombie()` method."

-- State classes that await players need a zombie method. Entries of a state array have no methods.
def missingZombies (states : List StateDefinition) : List Diagnostic :=
  (states.filter fun s => s.isStateClass && s.kind.awaitsPlayers && !s.hasZombie).map missingZombie

def baseName (path : String) : String :=
  let name := (lastComponent path).toList
  match "php.".toList.isPrefixOf? name.reverse with
  | some rest => .ofList rest.reverse
  | none => .ofList name

def classNameMismatch (s : StateDefinition) (className : String) : Diagnostic :=
  Rule.classNameMismatch.finding s.location
    s!"File is named `{baseName s.location}.php` but declares class `{className}`."

def classNameMismatches (states : List StateDefinition) : List Diagnostic :=
  (states.filter (·.isStateClass)).flatMap fun s =>
    (s.className.toList.filter fun c => baseName s.location != c).map (classNameMismatch s)

def reservedName (s : StateDefinition) (expected : String) : Diagnostic :=
  Rule.reservedName.finding s.location
    s!"State id={s.id} is named `{s.name}`, but BGA reserves id={s.id} for `{expected}`."

def reservedNames (settings : Settings) (states : List StateDefinition) : List Diagnostic :=
  (states.filter (!·.isStateClass)).flatMap fun s =>
    (if s.id = settings.initialId ∧ s.name ≠ settings.setupName then
      [reservedName s settings.setupName] else []) ++
    (if s.id = settings.terminalId ∧ s.name ∉ settings.endNames then
      [reservedName s (settings.endNames.head?.getD "gameEnd")] else [])

def missingImport (f : SourceFile) : Diagnostic :=
  Rule.missingImport.finding f.path
    s!"`{f.fileName}` uses `#[PossibleAction]` but is missing: `use Bga\\GameFramework\\States\\PossibleAction;`"

-- A class file that marks actions has to import the attribute, whether or not it declares a state.
def missingImports (sources : Sources) : List Diagnostic :=
  (sources.stateClasses.filter fun f =>
    StateClass.hasMarker f.text && !StateClass.importsMarker f.text).map missingImport

def functionNamed (name : String) : Reader Unit := do
  .literal "function"
  .blanks1
  .literal name
  .blanks
  .literal "("

def hasFunction (text name : String) : Bool :=
  (functionNamed name).anywhere.occursIn text.toList

def missingMethod (s : StateDefinition) (method : String) : Diagnostic :=
  { Rule.missingMethod.finding s.location
      s!"State `{s.name}` declares `#[PossibleAction]` for `{method}` but no such method exists in the file." with
    hint := some s!"Add a `public function {method}(int $activePlayerId): string` method." }

def missingMethods (sources : Sources) (states : List StateDefinition) : List Diagnostic :=
  (states.filter (·.isStateClass)).flatMap fun s =>
    (sources.stateClass? s.location).toList.flatMap fun f =>
      ((s.actions.map Action.method).filter fun m => !hasFunction f.text m).map (missingMethod s)

end StateLint.Checks
