import MeshNode.FileTree
import MeshNode.Key

/-!
# Key files

A device keeps its private key in a file of its state directory: one line of
Base64, readable by its owner alone. The file is created on the first start and
never replaced afterwards; a file that cannot be read or understood is an error,
because a new key would be a new device to every peer.
-/

namespace MeshNode

/-- Why no key came out of a key file. -/
inductive KeyFileError where
  | access (error : FileError)
  | invalidFormat (error : KeyError)
  deriving DecidableEq, Repr

/-- The wording of a key file's failure. -/
def KeyFileError.message : KeyFileError → String
  | .access error => s!"failed to access key file: {error.message}"
  | .invalidFormat error => s!"invalid key format: {error.message}"

namespace KeyFile

/-- The name of the key file in the state directory. -/
def name : String := "private.key"

/-- Only the owner may read or write a new key file. -/
def mode : Nat := 0o600

/-- The key that a file's content spells. -/
def decode (content : Bytes) : Except KeyFileError PrivateKey :=
  match content.toText? with
  | none => .error (.access .notText)
  | some text =>
    match PrivateKey.ofBase64 text with
    | .ok key => .ok key
    | .error error => .error (.invalidFormat error)

/-- The content of a key file: the key's text and a line end. -/
def encode (key : PrivateKey) : Bytes := Bytes.ofText (key.toBase64 ++ "\n")

variable {World : Type} (files : FileSystem World)

/-- Read the key at a path. -/
def load (path : FilePath) (world : World) : Except KeyFileError PrivateKey × World :=
  match files.read path world with
  | (.error error, world) => (.error (.access error), world)
  | (.ok content, world) => (decode content, world)

/-- Write a key to a path: make the directories above it, empty or create the file,
then write the line. The first failing step ends the attempt. -/
def save (key : PrivateKey) (path : FilePath) (world : World) : Except KeyFileError Unit × World :=
  match files.createDirectories path.parent world with
  | (.error error, world) => (.error (.access error), world)
  | (.ok (), world) =>
    match files.truncate mode path world with
    | (.error error, world) => (.error (.access error), world)
    | (.ok (), world) =>
      match files.append path (encode key) world with
      | (.error error, world) => (.error (.access error), world)
      | (.ok (), world) => (.ok (), world)

/-- The device's key: the one in the state directory, or `fresh` saved there if no
key file exists. -/
def getOrCreate (fresh : PrivateKey) (stateDirectory : FilePath) (world : World) :
    Except KeyFileError PrivateKey × World :=
  let path := stateDirectory.child name
  match files.exists? path world with
  | (.error error, world) => (.error (.access error), world)
  | (.ok true, world) => load files path world
  | (.ok false, world) =>
    match save files fresh path world with
    | (.error error, world) => (.error error, world)
    | (.ok (), world) => (.ok fresh, world)

end KeyFile

end MeshNode
