import StateLint.Json.Record
import StateLint.Migration

namespace StateLint

open Json

namespace MigrationStatus

def toWord : MigrationStatus → String
  | fullyMigrated => "fully_migrated"
  | notStarted => "not_started"
  | partiallyMigrated => "partially_migrated"

def ofWord? : String → Option MigrationStatus
  | "fully_migrated" => some fullyMigrated
  | "not_started" => some notStarted
  | "partially_migrated" => some partiallyMigrated
  | _ => none

end MigrationStatus

namespace Migration

def toJson (m : Migration) : Json :=
  obj [("status", str m.status.toWord), ("modern", strs m.modern), ("pending", strs m.pending),
    ("details", strs m.details)]

def ofJson? (j : Json) : Option Migration := do
  let r ← j.toRecord? 4
  return {
    status := ← r.required 0 "status" fun j => j.toWord?.bind MigrationStatus.ofWord?
    modern := ← r.required 1 "modern" (toList? toStr?)
    pending := ← r.required 2 "pending" (toList? toStr?)
    details := ← r.required 3 "details" (toList? toStr?)
  }

end Migration
end StateLint
