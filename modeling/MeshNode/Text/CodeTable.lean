import MeshNode.Text

/-!
# Tables of characters

Properties of characters are lines of text. A word names one code point in hexadecimal or a range of
them, `41-5A`. In a map a colon and an image follow, `BC:31+2044+34`; the image of a range is the
range of the same size that begins there, `41-5A:61`, and a range with a step, `246-24E/2:247`, has
only every second code point.
-/

namespace MeshNode.Text

/-- Code points from the first to the last, as far apart as the step says. -/
structure CodeRange where
  first : Nat
  last : Nat
  step : Nat := 1
  deriving DecidableEq, Repr

namespace CodeRange

/-- Whether a character belongs to a range. -/
def holds (range : CodeRange) (c : Char) : Bool :=
  range.first ≤ c.toNat && c.toNat ≤ range.last && (c.toNat - range.first) % range.step == 0

/-- The range that a word names. -/
def ofWord? (word : List Char) : Option CodeRange := do
  let (codes, step) ← match splitAt '/' word with
    | [codes] => some (codes, 1)
    | [codes, step] => (number? 10 step).map fun step => (codes, step)
    | _ => none
  match splitAt '-' codes with
  | [code] =>
    let code ← number? 16 code
    return ⟨code, code, step⟩
  | [first, last] => return ⟨← number? 16 first, ← number? 16 last, step⟩
  | _ => none

end CodeRange

/-- The words of lines. -/
def wordsOf (lines : List String) : List (List Char) :=
  lines.flatMap fun line => (splitAt ' ' line.toList).filter fun word => !word.isEmpty

/-- A set of characters. -/
abbrev CodeSet := List CodeRange

namespace CodeSet

/-- Whether a character belongs to a set. -/
def holds (set : CodeSet) (c : Char) : Bool := set.any (·.holds c)

/-- The set that lines name. -/
def ofLines (lines : List String) : CodeSet := (wordsOf lines).filterMap CodeRange.ofWord?

end CodeSet

/-- A range with the image of its first code point. -/
structure CodeImage where
  range : CodeRange
  image : List Nat
  deriving DecidableEq, Repr

/-- A map from some characters to texts. -/
abbrev CodeMap := List CodeImage

namespace CodeMap

/-- The image of a character that has one. -/
def find? (map : CodeMap) (c : Char) : Option (List Char) :=
  (List.find? (fun entry : CodeImage => entry.range.holds c) map).map fun entry =>
    entry.image.map fun code => Char.ofNat (code + (c.toNat - entry.range.first))

/-- The entry that a word names. -/
def entry? (word : List Char) : Option CodeImage :=
  match splitAt ':' word with
  | [range, image] => do
    return ⟨← CodeRange.ofWord? range, ← (splitAt '+' image).mapM (number? 16)⟩
  | _ => none

/-- The map that lines name. -/
def ofLines (lines : List String) : CodeMap := (wordsOf lines).filterMap entry?

end CodeMap

end MeshNode.Text
