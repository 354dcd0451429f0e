namespace StateLint

inductive FileError where
  | notFound
  | notDirectory
  | isDirectory
  | nameTooLong
  | tooManyLinks
  | zeroByte
  | notText
  deriving DecidableEq, Repr

def FileError.message : FileError → String
  | notFound => "No such file or directory (os error 2)"
  | notDirectory => "Not a directory (os error 20)"
  | isDirectory => "Is a directory (os error 21)"
  | nameTooLong => "File name too long (os error 36)"
  | tooManyLinks => "Too many levels of symbolic links (os error 40)"
  | zeroByte => "file name contained an unexpected NUL byte"
  | notText => "stream did not contain valid UTF-8"

inductive EntryKind where
  | file
  | directory
  | link
  deriving DecidableEq, Repr

structure DirectoryEntry where
  name : String
  kind : EntryKind
  deriving DecidableEq, Repr

structure FileSystem where
  -- The entries of a directory whose names are texts, in any order.
  list (path : String) : Except FileError (List DirectoryEntry)
  read (path : String) : Except FileError (List UInt8)
  isDirectory (path : String) : Bool
  isFile (path : String) : Bool

namespace FileSystem

variable (fs : FileSystem)

def names (kind : EntryKind) (path : String) : Except FileError (List String) := do
  let entries ← fs.list path
  return ((entries.filter (·.kind = kind)).map (·.name)).mergeSort

end FileSystem
end StateLint
