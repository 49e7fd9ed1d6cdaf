import MeshNode.Bytes
import MeshNode.FilePath

/-!
# File trees

A tree of directories and files as far as a key file needs one: which places exist, what files hold
and which permissions they were created with. The names of a path are looked up from the front; a
file in the middle of a path is not a directory, and neither is one before a final slash.

`FileSystem` lists the operations that the rest of the library uses, over any
kind of state, so that a state whose operations fail now and then is a file
system as well. `FileTree.fileSystem` is the one that never fails for a reason
outside the tree.
-/

namespace MeshNode

/-- Why a file operation failed. -/
inductive FileError where
  | notFound
  | alreadyExists
  | notDirectory
  | isDirectory
  | nameTooLong
  | holdsNul
  | notText
  | other (text : String)
  deriving DecidableEq, Repr

/-- The wording of a failed file operation. -/
def FileError.message : FileError → String
  | .notFound => "No such file or directory (os error 2)"
  | .alreadyExists => "File exists (os error 17)"
  | .notDirectory => "Not a directory (os error 20)"
  | .isDirectory => "Is a directory (os error 21)"
  | .nameTooLong => "File name too long (os error 36)"
  | .holdsNul => "file name contained an unexpected NUL byte"
  | .notText => "stream did not contain valid UTF-8"
  | .other text => text

/-- The operations of a file system with states of type `World`. -/
structure FileSystem (World : Type) where
  /-- Whether anything exists at a path. -/
  exists? : FilePath → World → Except FileError Bool × World
  /-- The content of a file. -/
  read : FilePath → World → Except FileError Bytes × World
  /-- Make a directory and all directories above it that are missing. -/
  createDirectories : FilePath → World → Except FileError Unit × World
  /-- Empty a file, or create an empty one with the given permissions. -/
  truncate : (mode : Nat) → FilePath → World → Except FileError Unit × World
  /-- Append bytes to a file that was just emptied. -/
  append : FilePath → Bytes → World → Except FileError Unit × World

/-- What can stand at a path. -/
inductive FileNode where
  | file (content : Bytes) (mode : Nat)
  | directory
  deriving DecidableEq, Repr

/-- A place in a tree: the names from the root down, none of which leads back up. -/
abbrev FilePlace := List String

/-- A directory tree as the nodes below its root, each with its place. The root is a
directory and is not listed. -/
structure FileTree where
  nodes : List (FilePlace × FileNode) := []
  deriving DecidableEq, Repr

namespace FileTree

/-- The node at a place. -/
def node? (tree : FileTree) (place : FilePlace) : Option FileNode :=
  if place.isEmpty then some .directory else tree.nodes.lookup place

/-- Put a node at a place. -/
def put (tree : FileTree) (place : FilePlace) (node : FileNode) : FileTree :=
  ⟨(place, node) :: tree.nodes.filter (·.1 ≠ place)⟩

/-! ## Following paths -/

/-- No system call takes a path that is too long or holds a zero. -/
def check (path : FilePath) : Except FileError Unit :=
  if path.holdsNul then .error .holdsNul
  else if FilePath.maxSize < path.size then .error .nameTooLong
  else .ok ()

/-- Follow names from a place; every node on the way must be a directory. -/
def follow (tree : FileTree) (place : FilePlace) : List String → Except FileError FilePlace
  | [] => .ok place
  | name :: rest =>
    match tree.node? place with
    | some .directory =>
      if name = FilePath.up then follow tree place.dropLast rest
      else if FilePath.maxName < name.utf8ByteSize then .error .nameTooLong
      else if (tree.node? (place ++ [name])).isNone then .error .notFound
      else follow tree (place ++ [name]) rest
    | some (.file _ _) => .error .notDirectory
    | none => .error .notFound

/-- The place of the directory that names lead to. -/
def directory (tree : FileTree) (names : List String) : Except FileError FilePlace := do
  let place ← follow tree [] names
  match tree.node? place with
  | some .directory => return place
  | _ => throw .notDirectory

/-- The node at a path, with its place. -/
def lookup (tree : FileTree) (path : FilePath) : Except FileError (FilePlace × FileNode) := do
  check path
  let place ← follow tree [] path.names
  match tree.node? place with
  | some (.file content mode) =>
    if path.ending = .name then return (place, .file content mode) else throw .notDirectory
  | _ => return (place, .directory)

/-- Where a path would put a new node: the directory and the name in it. There is no such place
for a path that ends in dots. -/
def spot (tree : FileTree) (path : FilePath) : Except FileError (Option (FilePlace × String)) := do
  check path
  match path.lastName? with
  | some name => return some (← tree.directory path.names.dropLast, name)
  | none =>
    let _ ← tree.directory path.names
    return none

/-! ## Operations -/

/-- Make one directory; the directory above it must exist. -/
def createDirectory (tree : FileTree) (path : FilePath) : Except FileError FileTree := do
  match ← tree.spot path with
  | none => throw .alreadyExists
  | some (above, name) =>
    if FilePath.maxName < name.utf8ByteSize then throw .nameTooLong
    else if (tree.node? (above ++ [name])).isSome then throw .alreadyExists
    else return tree.put (above ++ [name]) .directory

/-- Whether a directory stands at a path. -/
def isDirectory (tree : FileTree) (path : FilePath) : Bool :=
  match tree.lookup path with
  | .ok (_, .directory) => true
  | _ => false

/-- Make a directory, after the directories above it where those are missing. Those that were made
before a failure stay. `depth` bounds the number of directories above. -/
def createDirectoriesWithin :
    (depth : Nat) → FilePath → FileTree → Except FileError Unit × FileTree
  | 0, _, tree => (.ok (), tree)
  | depth + 1, path, tree =>
    match tree.createDirectory path with
    | .ok made => (.ok (), made)
    | .error .notFound =>
      match createDirectoriesWithin depth path.parent tree with
      | (.error error, above) => (.error error, above)
      | (.ok (), above) =>
        match above.createDirectory path with
        | .ok made => (.ok (), made)
        | .error error => (if above.isDirectory path then .ok () else .error error, above)
    | .error error => (if tree.isDirectory path then .ok () else .error error, tree)

/-- Make a directory and all that are missing above it. -/
def createDirectories (path : FilePath) (tree : FileTree) : Except FileError Unit × FileTree :=
  createDirectoriesWithin path.names.length path tree

/-- Read a file. -/
def read (tree : FileTree) (path : FilePath) : Except FileError Bytes := do
  match ← tree.lookup path with
  | (_, .file content _) => return content
  | (_, .directory) => throw .isDirectory

/-- Whether anything exists at a path; a file in the middle of the path is an error,
not an absence. -/
def exists? (tree : FileTree) (path : FilePath) : Except FileError Bool :=
  match tree.lookup path with
  | .ok _ => .ok true
  | .error .notFound => .ok false
  | .error error => .error error

/-- Empty a file and keep its permissions, or create an empty one. Behind a slash no file is
created. -/
def truncate (tree : FileTree) (mode : Nat) (path : FilePath) : Except FileError FileTree := do
  match ← tree.spot path with
  | none => throw .isDirectory
  | some (above, name) =>
    if path.ending = .slash then throw .isDirectory
    else if FilePath.maxName < name.utf8ByteSize then throw .nameTooLong
    else
      match tree.node? (above ++ [name]) with
      | some (.file _ kept) => return tree.put (above ++ [name]) (.file [] kept)
      | some .directory => throw .isDirectory
      | none => return tree.put (above ++ [name]) (.file [] mode)

/-- Append bytes to a file. -/
def append (tree : FileTree) (path : FilePath) (bytes : Bytes) : Except FileError FileTree := do
  match ← tree.lookup path with
  | (place, .file content mode) => return tree.put place (.file (content ++ bytes) mode)
  | (_, .directory) => throw .isDirectory

/-- An operation that leaves the tree alone. -/
def observing {α : Type} (operation : FileTree → Except FileError α) (tree : FileTree) :
    Except FileError α × FileTree :=
  (operation tree, tree)

/-- An operation that changes the tree where it succeeds. -/
def changing (operation : FileTree → Except FileError FileTree) (tree : FileTree) :
    Except FileError Unit × FileTree :=
  match operation tree with
  | .ok changed => (.ok (), changed)
  | .error error => (.error error, tree)

/-- Trees as a file system. -/
def fileSystem : FileSystem FileTree where
  exists? path := observing (·.exists? path)
  read path := observing (·.read path)
  createDirectories path := createDirectories path
  truncate mode path := changing (·.truncate mode path)
  append path bytes := changing (·.append path bytes)

end FileTree

end MeshNode
