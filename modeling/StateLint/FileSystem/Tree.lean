import StateLint.FileSystem.Basic
import StateLint.FileSystem.Path

namespace StateLint

-- The name of an entry: a text, or bytes that are none. A name of the second kind is in no path and
-- in no listing.
inductive EntryName where
  | text (name : String)
  | bytes (name : List UInt8)
  deriving DecidableEq, Repr

def EntryName.text? : EntryName → Option String
  | text name => some name
  | bytes _ => none

inductive FileTree where
  | file (content : List UInt8)
  | directory (entries : List (EntryName × FileTree))
  -- A symbolic link to a path.
  | link (target : String)
  deriving Inhabited

namespace FileTree

def empty : FileTree := directory []

def kind : FileTree → EntryKind
  | file _ => .file
  | directory _ => .directory
  | link _ => .link

def child? (t : FileTree) (name : String) : Option FileTree :=
  match t with
  | directory entries => (entries.find? (·.1 = .text name)).map (·.2)
  | _ => none

def putEntry (name : EntryName) (t : FileTree) :
    List (EntryName × FileTree) → List (EntryName × FileTree)
  | [] => [(name, t)]
  | e :: es => if e.1 = name then (name, t) :: es else e :: putEntry name t es

-- The directory with an entry put in. What is no directory becomes one.
def withEntry (root : FileTree) (name : String) (t : FileTree) : FileTree :=
  match root with
  | directory entries => directory (putEntry (.text name) t entries)
  | _ => directory [(.text name, t)]

def alter (root : FileTree) (names : List String) (change : Option FileTree → FileTree) :
    FileTree :=
  match names with
  | [] => change (some root)
  | [name] => root.withEntry name (change (root.child? name))
  | name :: rest => root.withEntry name (((root.child? name).getD empty).alter rest change)

def put (root : FileTree) (names : List String) (t : FileTree) : FileTree :=
  root.alter names fun _ => t

def makeDirectory (root : FileTree) (names : List String) : FileTree :=
  root.alter names (·.getD empty)

-- Follows the parts of a path. `place` holds the directory that was reached and those above it, up
-- to the root; `links` counts the symbolic links that may still be followed.
def follow (root : FileTree) (links : Nat) (place : List FileTree) :
    List (List Char) → Except FileError FileTree
  | [] => return place.headD root
  | part :: rest => do
    match place.headD root with
    | directory entries =>
      if part = [] ∨ part = ['.'] then
        follow root links place rest
      else if part = ['.', '.'] then
        follow root links (place.drop 1) rest
      else
        let name := String.ofList part
        if name.utf8ByteSize > 255 then
          throw .nameTooLong
        else
          match (directory entries).child? name with
          | none => throw .notFound
          | some (link target) =>
            match links with
            | 0 => throw .tooManyLinks
            | n + 1 =>
              follow root n (if Path.isAbsolute target then [] else place)
                (Path.parts target.toList ++ rest)
          | some t => follow root links (t :: place) rest
    | _ => throw .notDirectory
termination_by parts => (links, parts.length)

-- What stands at a path, with `working` the working directory and those above it.
def resolve (root : FileTree) (working : List FileTree) (path : String) :
    Except FileError FileTree :=
  if path.toList.contains '\x00' then throw .zeroByte
  else if path.isEmpty then throw .notFound
  else if path.utf8ByteSize ≥ 4096 then throw .nameTooLong
  else follow root 40 (if Path.isAbsolute path then [] else working) (Path.parts path.toList)

def ancestors (root : FileTree) : List String → List FileTree
  | [] => []
  | name :: rest =>
    match root.child? name with
    | some t => t.ancestors rest ++ [t]
    | none => []

def fileSystem (root : FileTree) (working : List String) : FileSystem where
  list path := do
    match ← entry path with
    | directory entries =>
      return entries.filterMap fun e => e.1.text?.map fun name => ⟨name, e.2.kind⟩
    | _ => throw .notDirectory
  read path := do
    match ← entry path with
    | file content => return content
    | _ => throw .isDirectory
  isDirectory path := (entry path).toOption.any (·.kind = .directory)
  isFile path := (entry path).toOption.any (·.kind = .file)
where
  entry (path : String) : Except FileError FileTree := root.resolve (root.ancestors working) path

end FileTree
end StateLint
