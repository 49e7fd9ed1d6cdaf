import MeshNode.FileTree
import MeshNode.Settings.Arguments
import MeshNode.Settings.File

/-!
# All sources together

The file is the lowest layer, the environment lies over it and the command line on top. The file
is the one that the command line or the environment names, or else the one at its usual place; a
file that does not exist says nothing. A source that cannot be understood refuses the settings,
the file before the environment.
-/

namespace MeshNode.Settings

/-- What stands at the path of a settings file. -/
inductive FileContent where
  | absent
  | text (content : String)
  | unreadable (reason : String)
  deriving DecidableEq, Repr

/-- The layer of what stands at a path. -/
def FileContent.layer (path : String) : FileContent → Except Error Layer
  | .absent => .ok {}
  | .unreadable reason => .error (.fileUnreadable path reason)
  | .text content =>
    match File.parse? content with
    | some layer => .ok layer
    | none => .error (.fileMalformed path)

/-- What stands at a path as bytes, read as text. -/
def FileContent.ofBytes (bytes : Bytes) : FileContent :=
  match bytes.toText? with
  | some content => .text content
  | none => .unreadable "stream did not contain valid UTF-8"

/-- What stands at a path, after an attempt to read it. A path that leads nowhere says the same as
one without a file. -/
def FileContent.ofRead : Except FileError Bytes → FileContent
  | .ok content => .ofBytes content
  | .error .isDirectory => .unreadable FileError.isDirectory.message
  | .error _ => .absent

/-- The path of the settings file. -/
def filePath? (environment : Environment) (arguments : Arguments) : Option String :=
  arguments.file.or environment.settingsFile?

/-- The layer of the settings file; `content` tells what stands at a path. -/
def fileLayer (content : String → FileContent) (environment : Environment) (arguments : Arguments) :
    Except Error Layer :=
  match filePath? environment arguments with
  | some path => (content path).layer path
  | none => .ok {}

/-- The joined layers of all sources. -/
def gather (content : String → FileContent) (environment : Environment) (arguments : Arguments) :
    Except Error Layer := do
  let file ← fileLayer content environment arguments
  let environmentLayer ← environment.layer
  return (file.merge environmentLayer).merge arguments.layer

/-- The settings of all sources. -/
def load (content : String → FileContent) (environment : Environment) (arguments : Arguments) :
    Except Error Settings := do
  (← gather content environment arguments).finalize environment.stateDirectory

end MeshNode.Settings
