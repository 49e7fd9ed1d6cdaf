import MeshNode.Text

/-!
# TOML tables

The values a settings file can hold, and how the lines of a file add up to one table. A key may
be a path of names: the tables on the way are made where they are missing. No key is given
twice, and a table that is complete is not added to: an inline table never, a table under a
header only below headers of its own, a table that was made for a dotted key only by further
dotted keys or by headers below it.

Of a number with a fraction only the spelling is kept, because no setting takes one. Dates and
arrays of tables are not values here for the same reason.
-/

namespace MeshNode.Toml

/-- How a table came to be. -/
inductive Origin where
  | inline
  /-- Made for a key with dots. -/
  | dotted
  /-- Has its own header. -/
  | header
  /-- Made for a header further down. -/
  | implied
  deriving DecidableEq, Repr

/-- A value. -/
inductive Value where
  | string (text : String)
  | integer (value : Int)
  | float (spelling : String)
  | boolean (value : Bool)
  | array (elements : List Value)
  | table (origin : Origin) (members : List (String × Value))
  deriving Inhabited, Repr

/-- The members of a table, in the order they were given. -/
abbrev Members := List (String × Value)

/-- Give a key another value. -/
def replace (name : String) (value : Value) (members : Members) : Members :=
  members.map fun member => if member.1 = name then (name, value) else member

/-- Give a value to a dotted key that has none. -/
def assign : List String → Value → Members → Option Members
  | [], _, _ => none
  | [name], value, members =>
    match members.lookup name with
    | none => some (members ++ [(name, value)])
    | some _ => none
  | name :: next :: rest, value, members =>
    match members.lookup name with
    | none =>
      (assign (next :: rest) value []).map fun inner => members ++ [(name, .table .dotted inner)]
    | some (.table .dotted inner) =>
      (assign (next :: rest) value inner).map fun inner =>
        replace name (.table .dotted inner) members
    | some _ => none

/-- Make the table of a header. -/
def openTable : List String → Members → Option Members
  | [], _ => none
  | [name], members =>
    match members.lookup name with
    | none => some (members ++ [(name, .table .header [])])
    | some (.table .implied inner) => some (replace name (.table .header inner) members)
    | some _ => none
  | name :: next :: rest, members =>
    match members.lookup name with
    | none =>
      (openTable (next :: rest) []).map fun inner => members ++ [(name, .table .implied inner)]
    | some (.table .inline _) => none
    | some (.table origin inner) =>
      (openTable (next :: rest) inner).map fun inner => replace name (.table origin inner) members
    | some _ => none

/-- Give a value to a dotted key below a header. -/
def assignUnder : (header : List String) → List String → Value → Members → Option Members
  | [], path, value, members => assign path value members
  | name :: rest, path, value, members =>
    match members.lookup name with
    | some (.table origin inner) =>
      (assignUnder rest path value inner).map fun inner =>
        replace name (.table origin inner) members
    | _ => none

/-- What a line of a file says. -/
inductive Statement where
  | header (path : List String)
  | assignment (path : List String) (value : Value)

/-- Add up statements; `header` is the one that assignments stand under. -/
def gather : (header : List String) → Members → List Statement → Option Members
  | _, members, [] => some members
  | _, members, .header path :: rest => do gather path (← openTable path members) rest
  | header, members, .assignment path value :: rest => do
    gather header (← assignUnder header path value members) rest

end MeshNode.Toml
