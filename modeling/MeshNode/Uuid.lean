import MeshNode.Bytes

/-!
# Universally unique identifiers

An identifier is 128 bits. It is read hyphenated in groups of 8, 4, 4, 4 and 12
hexadecimal digits, bare, in braces or behind `urn:uuid:`; it is written
hyphenated in small letters. Order is that of the bytes.
-/

namespace MeshNode

/-- A 128-bit identifier. -/
structure Uuid where
  bits : BitVec 128
  deriving DecidableEq, Repr

namespace Uuid

/-- The number that orders identifiers. -/
def rank (id : Uuid) : Nat := id.bits.toNat

/-- The identifier of 32 hexadecimal digits. -/
def ofDigits? (cs : List Char) : Option Uuid :=
  if cs.length = 32 then
    (cs.mapM (Text.digit? 16)).map fun ds => ⟨BitVec.ofNat 128 (Text.ofDigits 16 ds)⟩
  else none

/-- The places of the hyphens in the 36 characters of the hyphenated form. -/
def hyphenPlaces : List Nat := [8, 13, 18, 23]

/-- The identifier of 36 characters with hyphens at their places. -/
def ofHyphenated? (cs : List Char) : Option Uuid :=
  if cs.length = 36 ∧ hyphenPlaces.all (fun place => cs[place]? == some '-') then
    ofDigits? ((cs.zipIdx.filter fun (_, place) => !hyphenPlaces.contains place).map (·.1))
  else none

/-- The beginning of the name form, in any case. -/
def nameFront : List Char := "urn:uuid:".toList

/-- Read an identifier in any of its four forms. -/
def parse? (s : String) : Option Uuid :=
  let cs := s.toList
  if cs.length = 32 then ofDigits? cs
  else if cs.length = 36 then ofHyphenated? cs
  else if cs.length = 38 ∧ cs.head? = some '\x7b' ∧ cs.getLast? = some '\x7d' then
    ofHyphenated? (cs.drop 1).dropLast
  else if cs.length = 45 ∧ (cs.take 9).map Char.toLower = nameFront then ofHyphenated? (cs.drop 9)
  else none

/-- The hyphenated form in small letters. -/
def print (id : Uuid) : String :=
  let n := id.bits.toNat
  let digits := (Bytes.toHex (Bytes.ofNat 16 n)).toList
  let piece := fun start count => String.ofList ((digits.drop start).take count)
  Text.joined "-" [piece 0 8, piece 8 4, piece 12 4, piece 16 4, piece 20 12]

/-- The all-zero identifier. -/
def nil : Uuid := ⟨0⟩

end Uuid

end MeshNode
