import MeshNode.Toml

/-!
# Reading TOML

A file is a list of lines, each a header, an assignment, a comment or blank. Values are strings in
four styles, integers in four bases, numbers with a fraction, truth values, arrays, which may go
over several lines, and inline tables, which may not. Of control characters only tabs may stand
between words, and line ends; a carriage return stands only before a line feed.

The recursion is bounded by the length of the text.
-/

namespace MeshNode.Toml

/-- Blanks between words of a line. -/
def isSpace (c : Char) : Bool := c = ' ' || c = '\t'

/-- Characters that may stand in comments and strings. -/
def isPlain (c : Char) : Bool := c = '\t' || (0x20 ≤ c.toNat && c.toNat ≠ 0x7F)

/-- Drop the blanks in front. -/
def skipSpaces (cs : List Char) : List Char := cs.dropWhile isSpace

/-- Drop blanks, line ends and comments in front; `comment` tells whether a comment is under way. -/
def skipVoid (comment : Bool) : List Char → List Char
  | [] => []
  | '\n' :: rest => skipVoid false rest
  | '\r' :: '\n' :: rest => skipVoid false rest
  | c :: rest =>
    if comment then if isPlain c then skipVoid true rest else c :: rest
    else if isSpace c then skipVoid false rest
    else if c = '#' then skipVoid true rest
    else c :: rest

/-- The rest behind the end of a line, on which only a comment may still stand. -/
def lineEnd? (cs : List Char) : Option (List Char) :=
  let behind := match skipSpaces cs with
    | '#' :: rest => rest.dropWhile isPlain
    | cs => cs
  match behind with
  | [] => some []
  | '\n' :: rest => some rest
  | '\r' :: '\n' :: rest => some rest
  | _ => none

/-! ## Strings -/

/-- The character that a number of hexadecimal digits in front names. -/
def scalar? (count : Nat) (cs : List Char) : Option (Char × List Char) := do
  let digits := cs.take count
  guard (digits.length = count)
  let code := Text.ofDigits 16 (← digits.mapM (Text.digit? 16))
  guard (code.isValidChar)
  return (Char.ofNat code, cs.drop count)

/-- The character that an escape behind its backslash names. -/
def escape? : List Char → Option (Char × List Char)
  | 'u' :: rest => scalar? 4 rest
  | 'U' :: rest => scalar? 8 rest
  | c :: rest =>
    let simple := [('b', '\x08'), ('t', '\t'), ('n', '\n'), ('f', '\x0C'), ('r', '\r'), ('"', '"'),
      ('\\', '\\')]
    (simple.lookup c).map fun character => (character, rest)
  | [] => none

/-- The text of the characters so far, the last first. -/
def textOf (acc : List Char) : String := String.ofList acc.reverse

/-- A string on one line behind its opening quote. -/
def readBasic : (fuel : Nat) → (acc : List Char) → List Char → Option (String × List Char)
  | 0, _, _ => none
  | _, _, [] => none
  | _, acc, '"' :: rest => some (textOf acc, rest)
  | fuel + 1, acc, '\\' :: rest => do
    let (c, rest) ← escape? rest
    readBasic fuel (c :: acc) rest
  | fuel + 1, acc, c :: rest => if isPlain c then readBasic fuel (c :: acc) rest else none

/-- A string without escapes on one line behind its opening quote. -/
def readLiteral (acc : List Char) : List Char → Option (String × List Char)
  | [] => none
  | '\'' :: rest => some (textOf acc, rest)
  | c :: rest => if isPlain c then readLiteral (c :: acc) rest else none

/-- How many quotes stand in front, up to five: of five the first two belong to the text. -/
def quotesInFront (quote : Char) (cs : List Char) : Nat :=
  ((cs.take 5).takeWhile (· = quote)).length

/-- Drop blanks and line ends in front, which an escaped line end swallows. -/
def skipLines : List Char → List Char
  | '\n' :: rest => skipLines rest
  | '\r' :: '\n' :: rest => skipLines rest
  | c :: rest => if isSpace c then skipLines rest else c :: rest
  | [] => []

/-- A string over several lines behind its opening quotes; `escapes` tells whether a backslash
escapes a character or a line end with the blanks behind it. -/
def readLines (quote : Char) (escapes : Bool) :
    (fuel : Nat) → (acc : List Char) → List Char → Option (String × List Char)
  | 0, _, _ => none
  | _, _, [] => none
  | fuel + 1, acc, c :: rest =>
    let quotes := quotesInFront quote (c :: rest)
    if 3 ≤ quotes then
      some (textOf (List.replicate (quotes - 3) quote ++ acc), (c :: rest).drop quotes)
    else if c = '\\' && escapes then
      match skipSpaces rest with
      | '\n' :: behind => readLines quote escapes fuel acc (skipLines behind)
      | '\r' :: '\n' :: behind => readLines quote escapes fuel acc (skipLines behind)
      | _ => do
        let (character, rest) ← escape? rest
        readLines quote escapes fuel (character :: acc) rest
    else if c = '\n' then readLines quote escapes fuel ('\n' :: acc) rest
    else if c = '\r' then
      match rest with
      | '\n' :: rest => readLines quote escapes fuel ('\n' :: acc) rest
      | _ => none
    else if isPlain c then readLines quote escapes fuel (c :: acc) rest
    else none

/-- The line end right behind the opening quotes does not count. -/
def skipFirstLineEnd : List Char → List Char
  | '\n' :: rest => rest
  | '\r' :: '\n' :: rest => rest
  | cs => cs

/-- A string of any style. -/
def readString : List Char → Option (String × List Char)
  | '"' :: '"' :: '"' :: rest => readLines '"' true (rest.length + 1) [] (skipFirstLineEnd rest)
  | '\'' :: '\'' :: '\'' :: rest =>
    readLines '\'' false (rest.length + 1) [] (skipFirstLineEnd rest)
  | '"' :: rest => readBasic (rest.length + 1) [] rest
  | '\'' :: rest => readLiteral [] rest
  | _ => none

/-! ## Keys -/

/-- Characters of a name without quotes. -/
def isBare (c : Char) : Bool := c.isAlphanum || c = '_' || c = '-'

/-- One name of a key. -/
def readName (cs : List Char) : Option (String × List Char) :=
  match cs with
  | '"' :: rest => readBasic (rest.length + 1) [] rest
  | '\'' :: rest => readLiteral [] rest
  | _ =>
    let name := cs.takeWhile isBare
    if name.isEmpty then none else some (String.ofList name, cs.dropWhile isBare)

/-- A key: names with dots between them. -/
def readKey : (fuel : Nat) → List Char → Option (List String × List Char)
  | 0, _ => none
  | fuel + 1, cs => do
    let (name, rest) ← readName (skipSpaces cs)
    match skipSpaces rest with
    | '.' :: rest =>
      let (names, rest) ← readKey fuel rest
      return (name :: names, rest)
    | rest => return ([name], rest)

/-! ## Numbers and words -/

/-- Digits in a base, with single underscores between them. -/
def underscored? (base : Nat) : List Char → Option (List Nat)
  | [] => none
  | [c] => (Text.digit? base c).map fun digit => [digit]
  | c :: '_' :: rest => do return (← Text.digit? base c) :: (← underscored? base rest)
  | c :: rest => do return (← Text.digit? base c) :: (← underscored? base rest)

/-- The natural number of a decimal numeral without needless zeros. -/
def decimal? (cs : List Char) : Option Nat := do
  let digits ← underscored? 10 cs
  guard (digits.length = 1 ∨ digits.head? ≠ some 0)
  return Text.ofDigits 10 digits

/-- An integer, unless it needs more than 64 bits. -/
def integer? (cs : List Char) : Option Int := do
  let value ← match cs with
    | '0' :: 'x' :: rest => (underscored? 16 rest).map fun digits => (Text.ofDigits 16 digits : Int)
    | '0' :: 'o' :: rest => (underscored? 8 rest).map fun digits => (Text.ofDigits 8 digits : Int)
    | '0' :: 'b' :: rest => (underscored? 2 rest).map fun digits => (Text.ofDigits 2 digits : Int)
    | '-' :: rest => (decimal? rest).map fun n => -(n : Int)
    | '+' :: rest => (decimal? rest).map fun n => (n : Int)
    | _ => (decimal? cs).map fun n => (n : Int)
  guard (-0x8000000000000000 ≤ value ∧ value < 0x8000000000000000)
  return value

/-- A numeral without its sign. -/
def unsigned : List Char → List Char
  | '+' :: rest => rest
  | '-' :: rest => rest
  | cs => cs

/-- Whether a text is an exponent: its mark, perhaps a sign, and digits. -/
def isExponent : List Char → Bool
  | 'e' :: rest => (underscored? 10 (unsigned rest)).isSome
  | 'E' :: rest => (underscored? 10 (unsigned rest)).isSome
  | _ => false

/-- Whether a character marks an exponent. -/
def isExponentMark (c : Char) : Bool := c = 'e' || c = 'E'

/-- Whether a text is a number with a fraction or an exponent, or no finite number. -/
def isFloat (cs : List Char) : Bool :=
  let cs := unsigned cs
  let (whole, rest) := cs.span fun c => c ≠ '.' && !isExponentMark c
  cs = "inf".toList || cs = "nan".toList ||
    (decimal? whole).isSome &&
      match rest with
      | '.' :: behind =>
        let (fraction, rest) := behind.span fun c => !isExponentMark c
        (underscored? 10 fraction).isSome && (rest.isEmpty || isExponent rest)
      | rest => isExponent rest

/-- The value that a word without quotes stands for. -/
def word? (word : List Char) : Option Value :=
  if word = "true".toList then some (.boolean true)
  else if word = "false".toList then some (.boolean false)
  else if isFloat word then some (.float (String.ofList word))
  else (integer? word).map .integer

/-- Characters of a word. -/
def isWordChar (c : Char) : Bool := isBare c || c = '+' || c = '.' || c = ':'

/-! ## Values -/

/-- How deep arrays and inline tables may stand in each other. -/
def maxDepth : Nat := 79

mutual

/-- A value, which stands right in front; `room` is how deep it may go. -/
def readValue : (fuel room : Nat) → List Char → Option (Value × List Char)
  | 0, _, _ => none
  | fuel + 1, room, cs =>
    match cs with
    | '"' :: _ => (readString cs).map fun (text, rest) => (.string text, rest)
    | '\'' :: _ => (readString cs).map fun (text, rest) => (.string text, rest)
    | '[' :: rest => do
      guard (0 < room)
      match skipVoid false rest with
      | ']' :: rest => return (.array [], rest)
      | rest =>
        let (elements, rest) ← readElements fuel (room - 1) [] rest
        return (.array elements, rest)
    | '\x7b' :: rest => do
      guard (0 < room)
      match skipSpaces rest with
      | '\x7d' :: rest => return (.table .inline [], rest)
      | rest =>
        let (members, rest) ← readMembers fuel (room - 1) [] rest
        return (.table .inline members, rest)
    | _ => (word? (cs.takeWhile isWordChar)).map fun value => (value, cs.dropWhile isWordChar)

/-- The elements of an array up to its closing bracket; a comma may stand behind the last one. -/
def readElements :
    (fuel room : Nat) → (acc : List Value) → List Char → Option (List Value × List Char)
  | 0, _, _, _ => none
  | fuel + 1, room, acc, cs => do
    let (value, rest) ← readValue fuel room cs
    let elements := value :: acc
    match skipVoid false rest with
    | ']' :: rest => return (elements.reverse, rest)
    | ',' :: rest =>
      match skipVoid false rest with
      | ']' :: rest => return (elements.reverse, rest)
      | rest => readElements fuel room elements rest
    | _ => none

/-- The members of an inline table up to its closing brace. -/
def readMembers : (fuel room : Nat) → Members → List Char → Option (Members × List Char)
  | 0, _, _, _ => none
  | fuel + 1, room, members, cs => do
    let (path, rest) ← readKey (cs.length + 1) cs
    match rest with
    | '=' :: rest =>
      let (value, rest) ← readValue fuel room (skipSpaces rest)
      let members ← assign path value members
      match skipSpaces rest with
      | '\x7d' :: rest => return (members, rest)
      | ',' :: rest => readMembers fuel room members rest
      | _ => none
    | _ => none

end

/-! ## Files -/

/-- One header or assignment, and what follows on its line. -/
def readStatement (cs : List Char) : Option (Statement × List Char) := do
  match cs with
  | '[' :: rest =>
    let (path, rest) ← readKey (cs.length + 1) rest
    match rest with
    | ']' :: rest => return (.header path, rest)
    | _ => none
  | _ =>
    let (path, rest) ← readKey (cs.length + 1) cs
    match rest with
    | '=' :: rest =>
      let rest := skipSpaces rest
      let (value, rest) ← readValue (2 * rest.length + 2) maxDepth rest
      return (.assignment path value, rest)
    | _ => none

/-- The statements of a file. -/
def readStatements : (fuel : Nat) → (acc : List Statement) → List Char → Option (List Statement)
  | 0, _, _ => none
  | fuel + 1, acc, cs =>
    match skipVoid false cs with
    | [] => some acc.reverse
    | cs => do
      let (statement, rest) ← readStatement cs
      readStatements fuel (statement :: acc) (← lineEnd? rest)

/-- A byte order mark in front of a file does not count. -/
def skipMark : List Char → List Char
  | c :: rest => if c.toNat = 0xFEFF then rest else c :: rest
  | [] => []

/-- Read a file as one table. -/
def parse? (text : String) : Option Members := do
  let cs := skipMark text.toList
  gather [] [] (← readStatements (cs.length + 1) [] cs)

end MeshNode.Toml
