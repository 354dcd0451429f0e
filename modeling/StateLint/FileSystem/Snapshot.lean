import StateLint.FileSystem.Tree
import StateLint.Json.Record

namespace StateLint.FileTree

def hexDigit? (c : Char) : Option Nat :=
  if '0' ≤ c ∧ c ≤ '9' then some (c.toNat - '0'.toNat)
  else if 'a' ≤ c ∧ c ≤ 'f' then some (c.toNat - 'a'.toNat + 10)
  else if 'A' ≤ c ∧ c ≤ 'F' then some (c.toNat - 'A'.toNat + 10)
  else none

def ofHex? : List Char → Option (List UInt8)
  | [] => some []
  | c :: d :: rest => do
    return .ofNat (16 * (← hexDigit? c) + (← hexDigit? d)) :: (← ofHex? rest)
  | [_] => none

def namesOf (path : String) : List String :=
  ((Path.parts path.toList).filter fun p => p != [] && p != ['.']).map .ofList

-- The tree with one more entry. What the entry holds is its text, its bytes in hexadecimal digits
-- or the target of a link; it is a directory if it holds nothing.
def withListed? (root : FileTree) (working : List String) (entry : Json) : Option FileTree := do
  let path ← (entry.get? "path").bind Json.toStr?
  let names := working ++ namesOf path
  match entry.get? "text", entry.get? "hex", entry.get? "link" with
  | some (.str text), _, _ => return root.put names (file text.toUTF8.toList)
  | none, some (.str digits), _ => return root.put names (file (← ofHex? digits.toList))
  | none, none, some (.str target) => return root.put names (link target)
  | none, none, none => return root.makeDirectory names
  | _, _, _ => none

def ofJson? (working : List String) (j : Json) : Option FileTree :=
  match j with
  | .arr entries => entries.foldlM (·.withListed? working) (empty.makeDirectory working)
  | _ => none

end StateLint.FileTree
