import MeshNode.Text

/-!
# File paths

A path leads from the root of a tree down through names, and `..` among them leads back up. Empty
names mean nothing, and neither does `.` between other names. How a path ends does mean something:
before a final slash or dot only a directory may stand.
-/

namespace MeshNode

/-- What stands at the end of a path. -/
inductive PathEnd where
  | name
  | slash
  | dot
  deriving DecidableEq, Repr

/-- The names from the root down to a file or directory. -/
structure FilePath where
  names : List String := []
  ending : PathEnd := .name
  deriving DecidableEq, Repr

namespace FilePath

/-- The name of the directory above. -/
def up : String := ".."

/-- The most bytes that a path may have. -/
def maxSize : Nat := 4095

/-- The most bytes that a name in a path may have. -/
def maxName : Nat := 255

/-- The path that a text writes below the root. -/
def ofText (text : String) : FilePath :=
  let pieces := (Text.splitAt '/' text.toList).map String.ofList
  let ending := match pieces.reverse.dropWhile (· = "") with
    | "." :: _ => .dot
    | _ => if pieces.getLast? = some "" then .slash else .name
  ⟨pieces.filter fun piece => piece ≠ "" ∧ piece ≠ ".", ending⟩

/-- The path that a text writes where paths begin at a directory, unless they begin with a slash. -/
def join (directory : FilePath) (text : String) : FilePath :=
  let path := ofText text
  if text.startsWith "/" then path else { path with names := directory.names ++ path.names }

/-- The path of a name in a directory. -/
def child (directory : FilePath) (name : String) : FilePath := ⟨directory.names ++ [name], .name⟩

/-- The path of the directory that a path's last name stands in. -/
def parent (path : FilePath) : FilePath := ⟨path.names.dropLast, .name⟩

/-- The name that a path ends in; a path that ends in dots names a directory without one. -/
def lastName? (path : FilePath) : Option String :=
  if path.ending = .dot then none
  else path.names.getLast?.filter (· ≠ up)

/-- The number of bytes of a path. -/
def size (path : FilePath) : Nat :=
  path.names.foldl (fun count name => count + name.utf8ByteSize + 1) 0

/-- Whether a path holds the character that ends texts in a system call. -/
def holdsNul (path : FilePath) : Bool := path.names.any fun name => name.toList.contains '\x00'

end FilePath

end MeshNode
