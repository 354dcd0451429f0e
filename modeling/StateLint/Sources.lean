import StateLint.Text.Basic

namespace StateLint

structure SourceFile where
  path : String
  text : String
  deriving DecidableEq, Repr

def SourceFile.fileName (f : SourceFile) : String :=
  Text.lastComponent f.path

structure UnreadableFile where
  path : String
  reason : String
  deriving DecidableEq, Repr

structure Sources where
  -- The array of all states.
  stateArray : Option SourceFile
  -- The classes of single states.
  stateClasses : List SourceFile
  -- The directory of the classes, if it is there, be it empty.
  classDirectory : Option String
  -- The script that runs in the players' browsers.
  clientScript : Option SourceFile
  -- The server's main script.
  mainScript : Option SourceFile
  -- The other scripts of the server.
  serverScripts : List SourceFile
  unreadable : List UnreadableFile
  deriving DecidableEq, Repr

namespace Sources

def empty : Sources := ⟨none, [], none, none, none, [], []⟩

def withStateArray (s : Sources) (path text : String) : Sources :=
  { s with stateArray := some ⟨path, text⟩ }

def withStateClass (s : Sources) (path text : String) : Sources :=
  { s with stateClasses := s.stateClasses ++ [⟨path, text⟩] }

def withClassDirectory (s : Sources) (path : String) : Sources :=
  { s with classDirectory := some path }

def withClientScript (s : Sources) (path text : String) : Sources :=
  { s with clientScript := some ⟨path, text⟩ }

def withMainScript (s : Sources) (path text : String) : Sources :=
  { s with mainScript := some ⟨path, text⟩ }

def withServerScript (s : Sources) (path text : String) : Sources :=
  { s with serverScripts := s.serverScripts ++ [⟨path, text⟩] }

def withUnreadable (s : Sources) (path reason : String) : Sources :=
  { s with unreadable := s.unreadable ++ [⟨path, reason⟩] }

def serverFiles (s : Sources) : List SourceFile :=
  s.stateArray.toList ++ s.mainScript.toList ++ s.serverScripts ++ s.stateClasses

def stateClass? (s : Sources) (path : String) : Option SourceFile :=
  s.stateClasses.find? (·.path = path)

-- Where states were looked for. The directory of the classes stands for all of them; without it the
-- first class does.
def stateLocations (s : Sources) : List String :=
  (s.stateArray.map (·.path)).toList ++
    (s.classDirectory.or (s.stateClasses.head?.map (·.path))).toList

end Sources
end StateLint
