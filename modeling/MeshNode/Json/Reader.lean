import MeshNode.Json

/-!
# Reading JSON

A reader over bytes, because a message body need not be valid UTF-8 where its
values are skipped. The grammar is that of RFC 8259: four blank characters, no
leading zeros, no control characters in strings, nothing behind the value.

Nesting is bounded by the length of the text alone, and so is the recursion.
-/

namespace MeshNode.Json

/-- Drop the four JSON blanks in front. -/
def skipBlanks : Bytes → Bytes
  | [] => []
  | b :: rest => if b = 32 ∨ b = 10 ∨ b = 13 ∨ b = 9 then skipBlanks rest else b :: rest

/-- The number that four hexadecimal digits write, and the rest. -/
def hexQuad? : Bytes → Option (Nat × Bytes)
  | a :: b :: c :: d :: rest => do
    let ds ← [a, b, c, d].mapM fun code => Text.digit? 16 (Char.ofNat code.toNat)
    return (Text.ofDigits 16 ds, rest)
  | _ => none

/-- Push the UTF-8 bytes of a code point on a reversed byte string. -/
def pushScalar (acc : Bytes) (code : Nat) : Bytes :=
  (Bytes.ofText (String.singleton (Char.ofNat code))).reverse ++ acc

/-- The trailing half of a surrogate pair in front, if one stands there. -/
def trailingHalf? : Bytes → Option (Nat × Bytes)
  | 92 :: 117 :: rest =>
    match hexQuad? rest with
    | some (low, behind) => if 0xDC00 ≤ low ∧ low < 0xE000 then some (low, behind) else none
    | none => none
  | _ => none

/-- Take one code unit escape: a scalar, a pair of surrogates, or a lone half,
which spoils the string. -/
def takeUnicode (acc : Bytes) (sound : Bool) (unit : Nat) (rest : Bytes) : Bytes × Bool × Bytes :=
  if unit < 0xD800 ∨ 0xE000 ≤ unit then (pushScalar acc unit, sound, rest)
  else if 0xDC00 ≤ unit then (acc, false, rest)
  else
    match trailingHalf? rest with
    | some (low, behind) =>
      (pushScalar acc (0x10000 + (unit - 0xD800) * 1024 + (low - 0xDC00)), sound, behind)
    | none => (acc, false, rest)

/-- The byte that a one-letter escape stands for. -/
def simpleEscape? (code : UInt8) : Option UInt8 :=
  if code = 34 ∨ code = 92 ∨ code = 47 then some code
  else if code = 98 then some 8
  else if code = 102 then some 12
  else if code = 110 then some 10
  else if code = 114 then some 13
  else if code = 116 then some 9
  else none

/-- The rest of a string behind its opening quote. `acc` holds the bytes so far,
the last first; `sound` tells whether every escape named a character. The text is
absent where the string names none. -/
def readText : (fuel : Nat) → (acc : Bytes) → (sound : Bool) → Bytes →
    Option (Option String × Bytes)
  | 0, _, _, _ => none
  | _ + 1, _, _, [] => none
  | fuel + 1, acc, sound, b :: rest =>
    if b = 34 then
      some (if sound then Bytes.toText? acc.reverse else none, rest)
    else if b = 92 then
      match rest with
      | [] => none
      | code :: rest =>
        if code = 117 then
          match hexQuad? rest with
          | none => none
          | some (unit, rest) =>
            let (acc, sound, rest) := takeUnicode acc sound unit rest
            readText fuel acc sound rest
        else
          match simpleEscape? code with
          | none => none
          | some byte => readText fuel (byte :: acc) sound rest
    else if b < 32 then none
    else readText fuel (b :: acc) sound rest

/-- Take the decimal digits in front, the last first, and the rest. -/
def takeDigits (acc : Bytes) : Bytes → Bytes × Bytes
  | [] => (acc, [])
  | b :: rest => if 48 ≤ b ∧ b ≤ 57 then takeDigits (b :: acc) rest else (acc, b :: rest)

/-- Take at least one digit. -/
def takeSomeDigits? (acc : Bytes) (bytes : Bytes) : Option (Bytes × Bytes) :=
  match bytes with
  | [] => none
  | b :: _ => if 48 ≤ b ∧ b ≤ 57 then some (takeDigits acc bytes) else none

/-- The integer part: one zero, or digits that do not begin with zero. -/
def takeInteger? (acc : Bytes) : Bytes → Option (Bytes × Bytes)
  | 48 :: rest =>
    match rest with
    | b :: _ => if 48 ≤ b ∧ b ≤ 57 then none else some (48 :: acc, rest)
    | [] => some (48 :: acc, rest)
  | bytes => takeSomeDigits? acc bytes

/-- The fraction, if a point stands in front. -/
def takeFraction? (acc : Bytes) : Bytes → Option (Bytes × Bytes)
  | 46 :: rest => takeSomeDigits? (46 :: acc) rest
  | bytes => some (acc, bytes)

/-- The exponent, if its letter stands in front. -/
def takeExponent? (acc : Bytes) : Bytes → Option (Bytes × Bytes)
  | b :: rest =>
    if b = 101 ∨ b = 69 then
      match rest with
      | 43 :: rest => takeSomeDigits? (43 :: b :: acc) rest
      | 45 :: rest => takeSomeDigits? (45 :: b :: acc) rest
      | _ => takeSomeDigits? (b :: acc) rest
    else some (acc, b :: rest)
  | [] => some (acc, [])

/-- A number literal and the rest. -/
def readNumber (bytes : Bytes) : Option (Json × Bytes) := do
  let (acc, bytes) : Bytes × Bytes := match bytes with
    | 45 :: rest => ([45], rest)
    | _ => ([], bytes)
  let (acc, bytes) ← takeInteger? acc bytes
  let (acc, bytes) ← takeFraction? acc bytes
  let (acc, bytes) ← takeExponent? acc bytes
  return (.number (String.ofList (acc.reverse.map fun b => Char.ofNat b.toNat)), bytes)

/-- A given word in front. -/
def readWord (word : String) (value : Json) (bytes : Bytes) : Option (Json × Bytes) :=
  let codes := Bytes.ofText word
  if bytes.take codes.length = codes then some (value, bytes.drop codes.length) else none

/-- An object, or `unreadable` where one of its names is. -/
def ofMembers (members : List (Option String × Json)) : Json :=
  match members.mapM fun (name, value) => name.map fun name => (name, value) with
  | some members => .object members
  | none => .unreadable

mutual

/-- A value, with blanks allowed in front. -/
def readValue : (fuel : Nat) → Bytes → Option (Json × Bytes)
  | 0, _ => none
  | fuel + 1, bytes =>
    match skipBlanks bytes with
    | [] => none
    | b :: rest =>
      if b = 123 then
        match skipBlanks rest with
        | 125 :: rest => some (.object [], rest)
        | rest => (readMembers fuel [] rest).map fun (members, rest) => (ofMembers members, rest)
      else if b = 91 then
        match skipBlanks rest with
        | 93 :: rest => some (.array [], rest)
        | rest => (readElements fuel [] rest).map fun (elements, rest) => (.array elements, rest)
      else if b = 34 then
        (readText (rest.length + 1) [] true rest).map fun (text, rest) =>
          (match text with
            | some text => .string text
            | none => .unreadable, rest)
      else if b = 116 then readWord "true" (.bool true) (b :: rest)
      else if b = 102 then readWord "false" (.bool false) (b :: rest)
      else if b = 110 then readWord "null" .null (b :: rest)
      else readNumber (b :: rest)

/-- The elements of an array up to its closing bracket; `acc` holds those before,
the last first. -/
def readElements : (fuel : Nat) → List Json → Bytes → Option (List Json × Bytes)
  | 0, _, _ => none
  | fuel + 1, acc, bytes =>
    match readValue fuel bytes with
    | none => none
    | some (value, bytes) =>
      match skipBlanks bytes with
      | 44 :: rest => readElements fuel (value :: acc) rest
      | 93 :: rest => some ((value :: acc).reverse, rest)
      | _ => none

/-- The members of an object up to its closing brace; `acc` holds those before,
the last first. -/
def readMembers : (fuel : Nat) → List (Option String × Json) → Bytes →
    Option (List (Option String × Json) × Bytes)
  | 0, _, _ => none
  | fuel + 1, acc, bytes =>
    match skipBlanks bytes with
    | 34 :: rest =>
      match readText (rest.length + 1) [] true rest with
      | none => none
      | some (name, bytes) =>
        match skipBlanks bytes with
        | 58 :: bytes =>
          match readValue fuel bytes with
          | none => none
          | some (value, bytes) =>
            match skipBlanks bytes with
            | 44 :: rest => readMembers fuel ((name, value) :: acc) rest
            | 125 :: rest => some (((name, value) :: acc).reverse, rest)
            | _ => none
        | _ => none
    | _ => none

end

/-- Read a whole message body as one value. -/
def ofBytes? (bytes : Bytes) : Option Json :=
  match readValue (2 * bytes.length + 2) bytes with
  | some (value, rest) => if (skipBlanks rest).isEmpty then some value else none
  | none => none

/-- Read a whole text as one value. -/
def parse? (s : String) : Option Json := ofBytes? (Bytes.ofText s)

end MeshNode.Json
