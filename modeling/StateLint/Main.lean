import StateLint.CommandLine.Run
import StateLint.FileSystem.Snapshot
import StateLint.Json.Reader

namespace StateLint.CommandLine

def workingDirectory : List String := ["work"]

def fileSystemOf? (listing : String) : Option FileSystem := do
  let tree ← FileTree.ofJson? workingDirectory (← Json.ofText? listing)
  return tree.fileSystem workingDirectory

def answerOn (listing : String) (i : Invocation) : Answer :=
  match fileSystemOf? listing with
  | some fs => i.answer fs
  | none => ⟨2, "", "error: standard input does not list files\n"⟩

partial def readAll (stream : IO.FS.Stream) (before : String) : IO String := do
  let line ← stream.getLine
  if line.isEmpty then return before else readAll stream (before ++ line)

end StateLint.CommandLine

open StateLint.CommandLine in
def main (arguments : List String) : IO UInt32 := do
  let answer ←
    match Invocation.ofArguments (← IO.getEnv workspaceVariable) arguments with
    | .ok i => pure (answerOn (← readAll (← IO.getStdin) "") i)
    | .error e => pure e.answer
  IO.print answer.output
  IO.eprint answer.errorOutput
  return answer.exitCode
