import MeshNode.FileTree
import MeshNode.Program

/-!
# The command

Reads the variables and the settings file, hands them to the program and prints what it says.
-/

namespace MeshNode.CommandLine

open Settings (Environment FileContent)

/-- The variables that are set. -/
def readEnvironment : IO (List (String × String)) :=
  Environment.names.filterMapM fun name => do
    return (← IO.getEnv name).map fun value => (name, value)

/-- What a failed read says about the file. -/
def contentOfError : IO.Error → FileContent
  | .noFileOrDirectory _ _ _ => .absent
  | .inappropriateType _ _ _ => .unreadable FileError.isDirectory.message
  | error => .unreadable (toString error)

/-- What stands at a path. -/
def readContent (path : String) : IO FileContent := do
  try
    return .ofBytes (← IO.FS.readBinFile path).toList
  catch error =>
    return contentOfError error

/-- Run the program on the words of a command line. -/
def run (words : List String) : IO UInt32 := do
  let assignments ← readEnvironment
  let environment := fun name => assignments.lookup name
  let path := match Settings.Arguments.parse environment words with
    | .ok arguments => Settings.filePath? environment arguments
    | .error _ => none
  let content ← match path with
    | some path => readContent path
    | none => pure .absent
  let exit := Program.run Program.unconnected (fun _ => content) environment words
  (← IO.getStdout).putStr exit.output
  (← IO.getStderr).putStr exit.errors
  return exit.code

end MeshNode.CommandLine

/-- The command. -/
def main (words : List String) : IO UInt32 := MeshNode.CommandLine.run words
