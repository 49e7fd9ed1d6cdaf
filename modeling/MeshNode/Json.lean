import MeshNode.Bytes

/-!
# JSON values

The values that the wire formats are made of. An object keeps its members in
their order and keeps repeated names, because a decoder has to refuse a record
that gives one field twice. A number keeps its literal.

`unreadable` stands for a text that is well formed and still names no value: a
string with a lone surrogate or with bytes that are not UTF-8, or an object with
such a name. It may stand where a decoder skips the value and nowhere else.
-/

namespace MeshNode

/-- A JSON value. -/
inductive Json where
  | null
  | bool (value : Bool)
  | number (literal : String)
  | string (text : String)
  | array (elements : List Json)
  | object (members : List (String × Json))
  | unreadable
  deriving Inhabited, Repr

namespace Json

/-- A number without sign. -/
def ofNat (n : Nat) : Json := .number (toString n)

/-- A list of texts. -/
def ofTexts (texts : List String) : Json := .array (texts.map .string)

/-- A value or `null`. -/
def nullable {α : Type} (encode : α → Json) : Option α → Json
  | some a => encode a
  | none => .null

/-! ## Writing -/

/-- One character of a string literal: quote, backslash and control characters
are escaped, everything else stands for itself. -/
def escaped (c : Char) : List Char :=
  if c = '"' then ['\\', '"']
  else if c = '\\' then ['\\', '\\']
  else if c = '\n' then ['\\', 'n']
  else if c = '\r' then ['\\', 'r']
  else if c = '\t' then ['\\', 't']
  else if c.toNat = 8 then ['\\', 'b']
  else if c.toNat = 12 then ['\\', 'f']
  else if c.toNat < 32 then
    ['\\', 'u', '0', '0', Bytes.hexDigit (c.toNat / 16), Bytes.hexDigit (c.toNat % 16)]
  else [c]

/-- Append a string literal to what is written so far. -/
def appendText (out : String) (text : String) : String :=
  (text.foldl (fun out c => (escaped c).foldl String.push out) (out.push '"')).push '"'

mutual

/-- Append a value without any blanks. An unreadable value is written as `null`. -/
def append (out : String) : Json → String
  | .null => out ++ "null"
  | .bool true => out ++ "true"
  | .bool false => out ++ "false"
  | .number literal => out ++ literal
  | .string text => appendText out text
  | .array elements => (appendElements (out.push '[') true elements).push ']'
  | .object members => (appendMembers (out.push '\x7b') true members).push '\x7d'
  | .unreadable => out ++ "null"

/-- Append elements with commas between them. -/
def appendElements (out : String) (first : Bool) : List Json → String
  | [] => out
  | element :: rest =>
    appendElements (append (if first then out else out.push ',') element) false rest

/-- Append members with commas between them. -/
def appendMembers (out : String) (first : Bool) : List (String × Json) → String
  | [] => out
  | (name, value) :: rest =>
    let named := (appendText (if first then out else out.push ',') name).push ':'
    appendMembers (append named value) false rest

end

/-- The compact text of a value. -/
def print (value : Json) : String := append "" value

/-! ## Looking inside -/

/-- The members with a given name. -/
def valuesNamed (name : String) (members : List (String × Json)) : List Json :=
  members.filterMap fun (other, value) => if other = name then some value else none

/-- The values of named fields, in the order of the names. An object may give each
field at most once and may have other members; an array gives the fields by
their places and may stop early. -/
def fields? (names : List String) : Json → Option (List (Option Json))
  | .object members =>
    names.mapM fun name =>
      match valuesNamed name members with
      | [] => some none
      | [value] => some (some value)
      | _ => none
  | .array elements =>
    if elements.length ≤ names.length then
      some (elements.map some ++ List.replicate (names.length - elements.length) none)
    else none
  | _ => none

/-- The text of a string value. -/
def text? : Json → Option String
  | .string text => some text
  | _ => none

/-- The truth value. -/
def bool? : Json → Option Bool
  | .bool value => some value
  | _ => none

/-- The elements of an array, each decoded. -/
def listOf? {α : Type} (decode : Json → Option α) : Json → Option (List α)
  | .array elements => elements.mapM decode
  | _ => none

/-- A string value whose text a reader accepts. -/
def parsed? {α : Type} (parse : String → Option α) (value : Json) : Option α :=
  value.text?.bind parse

/-- A field that may be missing. -/
def orDefault {α : Type} (default : α) (decode : Json → Option α) : Option Json → Option α
  | none => some default
  | some value => decode value

/-- A field that may be missing or `null`. -/
def orAbsent {α : Type} (decode : Json → Option α) : Option Json → Option (Option α)
  | none => some none
  | some .null => some none
  | some value => (decode value).map some

/-- A natural number written without sign, fraction or exponent. -/
def nat? : Json → Option Nat
  | .number literal =>
    let cs := literal.toList
    if cs.isEmpty then none else (cs.mapM (Text.digit? 10)).map (Text.ofDigits 10)
  | _ => none

end Json

end MeshNode
