import MeshNode.Text.Composition.Rank
import MeshNode.Text.Direction
import MeshNode.Text.Joining

/-!
# Rules for labels

A label outside ASCII does not begin with a mark. The two invisible joiners stand only where they
change how letters look: behind a character that takes a vowel away or, for the one that keeps
letters apart, between two letters that would be joined. Where any label of a name is written from
the right to the left, every label keeps to one direction.
-/

namespace MeshNode.DomainName

open Text (Direction)

/-! ## Joiners -/

/-- The invisible character that joins letters. -/
def joiner : Nat := 0x200D

/-- The invisible character that keeps letters apart. -/
def nonJoiner : Nat := 0x200C

/-- Whether the next character that keeps letters apart is of some kind. -/
def meets (kind : Char → Bool) (cs : List Char) : Bool :=
  ((cs.dropWhile Text.isTransparent).head?).any kind

/-- Whether a character may stand between others, those in front of it with the last one first. -/
def mayStandBetween (front : List Char) (c : Char) (behind : List Char) : Bool :=
  let separates := meets Text.joinsBehind front && meets Text.joinsInFront behind
  if c.toNat = joiner then front.head?.any Text.isVirama
  else if c.toNat = nonJoiner then front.head?.any Text.isVirama || separates
  else true

/-- Whether all joiners of a label stand where they may. -/
def joinersStandRight (front : List Char) : List Char → Bool
  | [] => true
  | c :: rest => mayStandBetween front c rest && joinersStandRight (c :: front) rest

/-! ## Directions -/

/-- Whether a character makes a name one that has to keep to its directions. -/
def turns (c : Char) : Bool :=
  match Direction.of c with
  | .rightToLeft => true
  | .arabicNumber => true
  | _ => false

/-- Whether a direction may occur within a label that is written from the left to the right. -/
def fitsRightward : Direction → Bool
  | .rightToLeft => false
  | .arabicNumber => false
  | _ => true

/-- Whether a direction may occur within a label that is written from the right to the left. -/
def fitsLeftward : Direction → Bool
  | .leftToRight => false
  | _ => true

/-- Whether a label keeps to one direction: the direction of its first letter. It ends in a letter
of that direction or a number, apart from marks, and does not mix the two kinds of numbers where it
is written from the right to the left. -/
def keepsDirection (label : List Char) : Bool :=
  match label.map Direction.of with
  | [] => true
  | first :: rest =>
    let body := rest.reverse.dropWhile (· = .mark)
    let last? := body.head?
    if first = .leftToRight then
      last?.all (fun last => last = .leftToRight || last = .europeanNumber) &&
        body.all fitsRightward
    else if first = .rightToLeft then
      last?.all (fun last => fitsLeftward last && last ≠ .neutral) && body.all fitsLeftward &&
        !(body.contains .europeanNumber && body.contains .arabicNumber)
    else false

/-! ## Labels -/

/-- The most characters of a label outside ASCII. -/
def maxLabel : Nat := 1000

/-- Whether characters, of which some are outside ASCII, may form a label. -/
def mayFormLabel (label : List Char) : Bool :=
  label.length ≤ maxLabel && !label.head?.any Text.isMark && joinersStandRight [] label

end MeshNode.DomainName
