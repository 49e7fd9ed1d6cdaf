import MeshNode.Text.Composition.Parts
import MeshNode.Text.Composition.Rank

/-!
# Composition

A text is spelled in one way where every character is taken apart, the marks behind a letter are
sorted by their ranks, and then every letter is put together with the marks that it can be written
with. A mark is reached from its letter unless one of the same or a higher rank stands between.

The syllables of Hangul are not in the tables: their parts follow from their places in a block of
three dimensions.
-/

namespace MeshNode.Text

/-! ## Hangul -/

/-- The first syllable. -/
def firstSyllable : Nat := 0xAC00

/-- The first leading consonant. -/
def firstLead : Nat := 0x1100

/-- The first vowel. -/
def firstVowel : Nat := 0x1161

/-- What stands in front of the first trailing consonant. -/
def beforeTrail : Nat := 0x11A7

/-- The number of leading consonants. -/
def leadCount : Nat := 19

/-- The number of vowels. -/
def vowelCount : Nat := 21

/-- The number of endings, of which the first is none. -/
def trailCount : Nat := 28

/-- The parts of a syllable with a place in the block. -/
def syllableParts (place : Nat) : List Char :=
  let lead := firstLead + place / (vowelCount * trailCount)
  let vowel := firstVowel + place / trailCount % vowelCount
  let trail := place % trailCount
  let codes := if trail = 0 then [lead, vowel] else [lead, vowel, beforeTrail + trail]
  codes.map Char.ofNat

/-- The syllable that two parts make: a consonant and a vowel, or a syllable without an ending and
an ending. -/
def syllable? (a b : Char) : Option Char :=
  let lead := a.toNat - firstLead
  let vowel := b.toNat - firstVowel
  let place := a.toNat - firstSyllable
  let trail := b.toNat - beforeTrail
  if firstLead ≤ a.toNat ∧ lead < leadCount ∧ firstVowel ≤ b.toNat ∧ vowel < vowelCount then
    some (Char.ofNat (firstSyllable + (lead * vowelCount + vowel) * trailCount))
  else if firstSyllable ≤ a.toNat ∧ place < leadCount * vowelCount * trailCount ∧
      place % trailCount = 0 ∧ beforeTrail < b.toNat ∧ trail < trailCount then
    some (Char.ofNat (a.toNat + trail))
  else none

/-! ## Taking apart -/

/-- The two or fewer characters that a character is made of in the tables. -/
def directParts? (c : Char) : Option (List Char) :=
  (composites.find? c).or (dividedCharacters.find? c)

/-- How often parts have parts themselves. -/
def partDepth : Nat := 4

/-- The parts of a character that have no parts; `depth` bounds how often one is taken apart. -/
def partsWithin : (depth : Nat) → Char → List Char
  | 0, c => [c]
  | depth + 1, c =>
    match directParts? c with
    | some parts => parts.flatMap (partsWithin depth)
    | none => [c]

/-- The parts of a character that have no parts. -/
def parts (c : Char) : List Char :=
  let place := c.toNat - firstSyllable
  if firstSyllable ≤ c.toNat ∧ place < leadCount * vowelCount * trailCount then syllableParts place
  else partsWithin partDepth c

/-! ## Sorting -/

/-- Put a character in front of sorted ones, behind the marks of lower ranks. -/
def place (c : Char) : List Char → List Char
  | [] => [c]
  | d :: rest => if 0 < rank d ∧ rank d < rank c then d :: place c rest else c :: d :: rest

/-- Sort the marks behind every letter. -/
def sortMarks (cs : List Char) : List Char := cs.foldr place []

/-! ## Putting together -/

/-- The character that two characters make. -/
def composite? (a b : Char) : Option Char :=
  let pair := [a.toNat, b.toNat]
  let entry := List.find? (fun entry : CodeImage => entry.image == pair) composites
  (syllable? a b).or (entry.map fun entry => Char.ofNat entry.range.first)

/-- Whether marks, the last one first, keep a character from the letter in front of them. -/
def isBlocked (marks : List Char) (c : Char) : Bool :=
  marks.head?.any fun mark => rank c ≤ rank mark

/-- Put a letter together with what follows; `marks` are those that stay by themselves, the last one
first. -/
def composeFrom (letter : Char) (marks : List Char) : List Char → List Char
  | [] => letter :: marks.reverse
  | c :: rest =>
    match if isBlocked marks c then none else composite? letter c with
    | some whole => composeFrom whole marks rest
    | none =>
      if rank c = 0 then letter :: (marks.reverse ++ composeFrom c [] rest)
      else composeFrom letter (c :: marks) rest

/-- Put every letter together with its marks. -/
def compose : List Char → List Char
  | [] => []
  | c :: rest => if rank c = 0 then composeFrom c [] rest else c :: compose rest

/-- The one spelling of a text. -/
def composed (cs : List Char) : List Char := compose (sortMarks (cs.flatMap parts))

end MeshNode.Text
