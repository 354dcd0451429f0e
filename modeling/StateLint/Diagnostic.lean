namespace StateLint

inductive Severity where
  -- Something is broken.
  | error
  -- Something is likely wrong, but may be meant so.
  | warning
  -- An observation.
  | info
  deriving DecidableEq, Repr

namespace Severity

def all : List Severity := [error, warning, info]

def rank : Severity → Nat
  | error => 0
  | warning => 1
  | info => 2

def symbol : Severity → String
  | error => "✗"
  | warning => "⚠"
  | info => "ℹ"

def heading : Severity → String
  | error => "Errors"
  | warning => "Warnings"
  | info => "Info / Suggestions"

def toWord : Severity → String
  | error => "error"
  | warning => "warning"
  | info => "info"

theorem mem_all (s : Severity) : s ∈ all := by
  cases s <;> simp [all]

end Severity

structure Diagnostic where
  severity : Severity
  code : String
  -- The file it is about, or several with commas between them.
  location : String
  message : String
  hint : Option String
  deriving DecidableEq, Repr

def Diagnostic.render (d : Diagnostic) : String :=
  let line := s!"{d.severity.toWord}[{d.code}]: {d.message} ({d.location})"
  match d.hint with
  | some hint => s!"{line}\n  = help: {hint}"
  | none => line

inductive Rule where
  | unreadableFile
  | unknownClass
  | duplicateId
  | brokenTransition
  | unreachableState
  | missingZombie
  | classNameMismatch
  | reservedName
  | missingImport
  | missingMethod
  | unknownAction
  | uncalledAction
  | unhandledNotification
  | unsentNotification
  | progressionStub
  deriving DecidableEq, Repr

namespace Rule

def code : Rule → String
  | unreadableFile => "IO001"
  | unknownClass => "STATE000"
  | duplicateId => "STATE001"
  | brokenTransition => "STATE002"
  | unreachableState => "STATE003"
  | missingZombie => "STATE004"
  | classNameMismatch => "STATE005"
  | reservedName => "STATE006"
  | missingImport => "STATE010"
  | missingMethod => "STATE011"
  | unknownAction => "ACTION001"
  | uncalledAction => "ACTION002"
  | unhandledNotification => "NOTIF001"
  | unsentNotification => "NOTIF002"
  | progressionStub => "GAME001"

def severity : Rule → Severity
  | unreadableFile | duplicateId | brokenTransition | classNameMismatch | missingImport |
    missingMethod
  | unknownAction => .error
  | unreachableState | missingZombie | reservedName | unhandledNotification => .warning
  | unknownClass | uncalledAction | unsentNotification | progressionStub => .info

def advice : Rule → Option String
  | unreadableFile => some "The file was skipped, so checks that depend on it are incomplete."
  | unknownClass => none
  | duplicateId => some "Each state must have a unique numeric ID."
  | brokenTransition =>
    some "Check the transitions map. The target state ID is not declared anywhere in the project."
  | unreachableState =>
    some "Either another state should transition to this one, or it can be deleted."
  | missingZombie =>
    some "Add a `public function zombie(int $playerId): string` method to handle disconnected players."
  | classNameMismatch =>
    some "BGA autoloads State classes by filename. Rename the file to match the class name (or vice versa)."
  | reservedName => none
  | missingImport => some "Add the `use` statement at the top of the class file."
  | missingMethod => none
  | unknownAction =>
    some "Add a `#[PossibleAction]` method in the appropriate State class, or check for a typo."
  | uncalledAction => some "The action may be invoked another way, or the JS call is missing."
  | unhandledNotification =>
    some "Add a handler in `bgaSetupPromiseNotifications` (or old-style `notifqueue.subscribe`)."
  | unsentNotification =>
    some "The PHP side may be missing a notification send, or the handler is no longer needed."
  | progressionStub =>
    some "Implement a meaningful progression calculation (0 to 100) based on game state."

def finding (r : Rule) (location message : String) : Diagnostic where
  severity := r.severity
  code := r.code
  location
  message
  hint := r.advice

end Rule
end StateLint
