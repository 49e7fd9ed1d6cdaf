import MeshNode.Text
import MeshNode.Text.Alphanumeric

/-!
# Log filters

A filter is a list of directives between commas, of which empty ones count for nothing. A
directive is a word, a word with a level, or a span between brackets with or without a word in
front and a level behind it:

    directive  ::=  word  |  word level  |  [word] '[' span [field] ']' [level]
    field      ::=  '{' text '}'
    level      ::=  '=' [number or name]

A word begins with a letter, a numeral, a dash, a colon or an underscore. Blanks around a
directive are allowed as long as it has no level. A flawed directive is left out of its filter.
-/

namespace MeshNode.LogFilter

/-- What is wrong with a directive. -/
inductive Flaw where
  | malformed
  | level
  deriving DecidableEq, Repr

/-- The wording of a flaw. -/
def Flaw.message : Flaw → String
  | .malformed => "invalid filter directive"
  | .level =>
    "error parsing level filter: expected one of \"off\", \"error\", \"warn\", \"info\", " ++
      "\"debug\", \"trace\", or a number 0-5"

/-- The names of the levels, from the quietest. -/
def levelNames : List String := ["off", "error", "warn", "info", "debug", "trace"]

/-- Whether a text is a level: the name of one in any case, or its place among them. -/
def isLevel (text : String) : Bool :=
  levelNames.any (Text.sameIgnoringCase text) || (Text.unsigned levelNames.length text).isOk

/-! ## Directives -/

/-- Where the reading of a directive stands. -/
inductive Stage where
  /-- In front of everything. -/
  | start
  /-- In a word, which is a level or a target. -/
  | word
  /-- Behind the bracket that opens a span. -/
  | span
  /-- Behind the brace that opens a field. -/
  | opened
  /-- In a field. -/
  | field
  /-- Behind the brace that closes a field. -/
  | closed
  /-- Behind the bracket that closes a span. -/
  | target
  /-- Behind the equals sign in front of a level. -/
  | level
  deriving DecidableEq, Repr

/-- Whether a word can begin with a character. -/
def beginsWord (c : Char) : Bool := c = '-' || c = ':' || c = '_' || Text.isAlphanumeric c

/-- The stage behind a character, unless the character cannot stand there. -/
def Stage.next? (stage : Stage) (c : Char) : Option Stage :=
  match stage with
  | .start => if c = '[' then some .span else if beginsWord c then some .word else none
  | .word => if c = '=' then some .level else if c = '[' then some .span else some .word
  | .span => if c = ']' then some .target else if c = '\x7b' then some .opened else some .span
  | .opened => if c = '\x7d' then none else some .field
  | .field => if c = '\x7d' then some .closed else some .field
  | .closed => if c = ']' then some .target else none
  | .target => if c = '=' then some .level else none
  | .level => some .level

/-- Read on up to the level or the end: the last stage, and the text of the level. -/
def Stage.read? : Stage → List Char → Option (Stage × List Char)
  | .level, text => some (.level, text)
  | stage, [] => some (stage, [])
  | stage, c :: text =>
    match stage.next? c with
    | some stage => stage.read? text
    | none => none

/-- What is wrong with a directive, if anything is. -/
def flaw? (directive : List Char) : Option Flaw :=
  let text := Text.trim directive
  match Stage.start.read? text with
  | some (.word, _) => none
  | some (.target, _) => none
  | some (.level, level) =>
    if text = directive && (level.isEmpty || isLevel (String.ofList level)) then none
    else some .level
  | _ => some .malformed

/-! ## Filters -/

/-- The directives of a filter. -/
def directives (filter : String) : List (List Char) :=
  (Text.splitAt ',' filter.toList).filter fun directive => !directive.isEmpty

/-- The flawed directives of a filter. -/
def flaws (filter : String) : List (String × Flaw) :=
  (directives filter).filterMap fun directive =>
    (flaw? directive).map fun flaw => (String.ofList directive, flaw)

/-- What is said of a directive that is left out. -/
def note (directive : String) (flaw : Flaw) : String :=
  s!"ignoring `{directive}`: {flaw.message}\n"

/-- What is said of all that is left out of a filter. -/
def notes (filter : String) : String :=
  String.join ((flaws filter).map fun (directive, flaw) => note directive flaw)

end MeshNode.LogFilter
