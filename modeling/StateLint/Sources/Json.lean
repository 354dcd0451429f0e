import StateLint.Json.Record
import StateLint.Sources

namespace StateLint

open Json

namespace SourceFile

def toJson (f : SourceFile) : Json :=
  obj [("path", str f.path), ("text", str f.text)]

def ofJson? (j : Json) : Option SourceFile := do
  let r ← j.toRecord? 2
  return ⟨← r.required 0 "path" toStr?, ← r.required 1 "text" toStr?⟩

end SourceFile

namespace UnreadableFile

def toJson (f : UnreadableFile) : Json :=
  obj [("path", str f.path), ("reason", str f.reason)]

def ofJson? (j : Json) : Option UnreadableFile := do
  let r ← j.toRecord? 2
  return ⟨← r.required 0 "path" toStr?, ← r.required 1 "reason" toStr?⟩

end UnreadableFile

namespace Sources

def toJson (s : Sources) : Json :=
  obj [("legacy_states", file? s.stateArray),
    ("state_classes", arr (s.stateClasses.map SourceFile.toJson)),
    ("state_class_dir", str? s.classDirectory), ("front_end", file? s.clientScript),
    ("main_logic", file? s.mainScript),
    ("server_scripts", arr (s.serverScripts.map SourceFile.toJson)),
    ("unreadable", arr (s.unreadable.map UnreadableFile.toJson))]
where
  file? (f : Option SourceFile) : Json := f.elim null SourceFile.toJson

def ofJson? (j : Json) : Option Sources := do
  let r ← j.toRecord? 7
  return {
    stateArray := ← r.nullable 0 "legacy_states" SourceFile.ofJson?
    stateClasses := ← r.required 1 "state_classes" (toList? SourceFile.ofJson?)
    classDirectory := ← r.nullable 2 "state_class_dir" toStr?
    clientScript := ← r.nullable 3 "front_end" SourceFile.ofJson?
    mainScript := ← r.nullable 4 "main_logic" SourceFile.ofJson?
    serverScripts := ← r.required 5 "server_scripts" (toList? SourceFile.ofJson?)
    unreadable := ← r.defaulted 6 "unreadable" (toList? UnreadableFile.ofJson?) []
  }

end Sources
end StateLint
