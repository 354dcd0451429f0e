namespace StateLint.Path

def parts (path : List Char) : List (List Char) :=
  match path with
  | [] => [[]]
  | c :: cs =>
    if c == '/' then
      [] :: parts cs
    else
      match parts cs with
      | p :: ps => (c :: p) :: ps
      | [] => [[c]]

def isAbsolute (path : String) : Bool :=
  path.toList.head? == some '/'

-- The path of `relative` as seen from `base`. An absolute path is seen from nowhere.
def join (base relative : String) : String :=
  if isAbsolute relative || base.isEmpty then relative
  else if base.toList.getLast? == some '/' then base ++ relative
  else base ++ "/" ++ relative

-- The last component of a path, if that is a name and not the way to a parent directory.
def fileName? (path : String) : Option String :=
  match ((parts path.toList).filter fun p => p != [] && p != ['.']).getLast? with
  | some p => if p == ['.', '.'] then none else some (.ofList p)
  | none => none

end StateLint.Path
