/-!
# Text

Blank characters, case folding and numerals as the settings, the wire formats
and the key files spell them. Every rule works on the list of characters of a
text, so that a reader consumes its input from the front and returns the rest.

Blank means the Unicode property `White_Space`. Case folding is ASCII only:
a letter outside ASCII is never changed, so no two texts that differ outside
ASCII become equal.
-/

namespace MeshNode.Text

/-- The 25 characters with the Unicode property `White_Space`. -/
def isBlank (c : Char) : Bool :=
  let code := c.toNat
  (0x09 ≤ code && code ≤ 0x0D) || code == 0x20 || code == 0x85 || code == 0xA0 ||
  code == 0x1680 || (0x2000 ≤ code && code ≤ 0x200A) || code == 0x2028 ||
  code == 0x2029 || code == 0x202F || code == 0x205F || code == 0x3000

/-- Drop the blanks in front. -/
def trimLeft (cs : List Char) : List Char := cs.dropWhile isBlank

/-- Drop the blanks behind. -/
def trimRight (cs : List Char) : List Char := (trimLeft cs.reverse).reverse

/-- Drop the blanks on both sides; blanks inside stay. -/
def trim (cs : List Char) : List Char := trimRight (trimLeft cs)

/-- The text without the blanks on its two sides. -/
def trimmed (s : String) : String := String.ofList (trim s.toList)

/-- ASCII capitals become small letters, every other character stays. -/
def asciiLower (s : String) : String := String.ofList (s.toList.map Char.toLower)

/-- Equality that ignores the case of ASCII letters. -/
def sameIgnoringCase (a b : String) : Bool := asciiLower a == asciiLower b

/-- The rest of a text after a given beginning, if it begins so. -/
def stripFront? : List Char → List Char → Option (List Char)
  | [], rest => some rest
  | _ :: _, [] => none
  | c :: front, d :: rest => if c = d then stripFront? front rest else none

/-- The text after its beginning `front`, if it has that beginning. -/
def after? (front s : String) : Option String :=
  (stripFront? front.toList s.toList).map String.ofList

/-- Whether a text begins somewhere in the characters of another. -/
def beginsWithin (words : List Char) : List Char → Bool
  | [] => words.isEmpty
  | c :: rest => (stripFront? words (c :: rest)).isSome || beginsWithin words rest

/-- Whether a text occurs in another; the empty text occurs everywhere. -/
def occursIn (words s : String) : Bool := beginsWithin words.toList s.toList

/-- Cut at every occurrence of a character; there is always one piece more
than there are cuts. -/
def splitAt (separator : Char) : List Char → List (List Char)
  | [] => [[]]
  | c :: rest =>
    if c = separator then [] :: splitAt separator rest
    else match splitAt separator rest with
      | [] => [[c]]
      | piece :: pieces => (c :: piece) :: pieces

/-- Join texts with a separator between neighbours. -/
def joined (separator : String) (parts : List String) : String :=
  String.intercalate separator parts

/-- The value of an ASCII digit in a base of at most sixteen; letters of
either case stand for ten to fifteen. -/
def digit? (base : Nat) (c : Char) : Option Nat :=
  let value : Option Nat :=
    if '0' ≤ c ∧ c ≤ '9' then some (c.toNat - '0'.toNat)
    else if 'a' ≤ c ∧ c ≤ 'f' then some (c.toNat - 'a'.toNat + 10)
    else if 'A' ≤ c ∧ c ≤ 'F' then some (c.toNat - 'A'.toNat + 10)
    else none
  value.filter (· < base)

/-- The longest run of digits in front, and the rest behind it. -/
def digits (base : Nat) : List Char → List Nat × List Char
  | [] => ([], [])
  | c :: rest =>
    match digit? base c with
    | none => ([], c :: rest)
    | some d =>
      let (run, behind) := digits base rest
      (d :: run, behind)

/-- The number that a run of digits writes, most significant first. -/
def ofDigits (base : Nat) (ds : List Nat) : Nat := ds.foldl (fun n d => n * base + d) 0

/-- The number that all of a text writes in a base; nothing writes zero. -/
def number? (base : Nat) (cs : List Char) : Option Nat :=
  (cs.mapM (digit? base)).map (ofDigits base)

/-- Why a text is not a number of the wanted range. -/
inductive NumeralFlaw where
  | empty
  | invalidDigit
  | tooLarge
  deriving DecidableEq, Repr

/-- The wording of a numeral's flaw. -/
def NumeralFlaw.message : NumeralFlaw → String
  | .empty => "cannot parse integer from empty string"
  | .invalidDigit => "invalid digit found in string"
  | .tooLarge => "number too large to fit in target type"

/-- Read decimal digits into a number below `bound`, from the front; the first
flaw wins, so a number that grows too large before a wrong character is too
large. -/
def accumulate (bound : Nat) : Nat → List Char → Except NumeralFlaw Nat
  | n, [] => .ok n
  | n, c :: rest =>
    match digit? 10 c with
    | none => .error .invalidDigit
    | some d => if n * 10 + d < bound then accumulate bound (n * 10 + d) rest else .error .tooLarge

/-- Read a whole text as a decimal number below `bound`. One plus sign may
stand in front; leading zeros count for nothing. -/
def unsigned (bound : Nat) (s : String) : Except NumeralFlaw Nat :=
  match s.toList with
  | [] => .error .empty
  | ['+'] => .error .invalidDigit
  | '+' :: rest => accumulate bound 0 rest
  | cs => accumulate bound 0 cs

end MeshNode.Text
