import MeshNode.Bytes
import MeshNode.DomainName.Mapping
import MeshNode.DomainName.Punycode
import MeshNode.DomainName.Rules
import MeshNode.Text.Composition

/-!
# Domain names

A host name is compared and sent in one ASCII form. Characters that stand for others are replaced by
them and letters put together with their marks; then every label with characters outside ASCII is
written with its mark and punycode. A label that already carries the mark has to be the form of such
a label.

Empty labels are allowed, and so are hyphens anywhere.
-/

namespace MeshNode.DomainName

/-! ## Characters -/

/-- The ASCII characters that no domain name may contain, apart from control characters. -/
def forbidden : List Char :=
  [' ', '#', '%', '/', ':', '<', '>', '?', '@', '[', '\\', ']', '^', '|']

/-- Whether a character of a compared form may stand in a domain name, as far as ASCII goes. -/
def isAllowed (c : Char) : Bool :=
  0x20 < c.toNat && c.toNat ≠ 0x7F && !forbidden.contains c

/-- What a character without parts stands for. -/
def variant (c : Char) : List Char := if ignored.holds c then [] else (variants.find? c).getD [c]

/-- What a character stands for, if a name may contain it: what its parts do. -/
def mapped? (c : Char) : Option (List Char) :=
  if disallowed.holds c then none else some ((Text.parts c).flatMap variant)

/-- The compared form of a text, if a name may contain its characters. -/
def compared? (cs : List Char) : Option (List Char) := do
  let form := Text.composed (← cs.mapM mapped?).flatten
  if form.all isAllowed then some form else none

/-! ## Labels -/

/-- A label: its characters, and how it is written in ASCII. -/
structure Label where
  plain : List Char
  written : List Char

/-- Whether a character is in ASCII. -/
def isAscii (c : Char) : Bool := c.toNat < 0x80

/-- What stands in front of a label that is written for one outside ASCII. -/
def mark : List Char := "xn--".toList

/-- The most characters of such a label behind its mark. -/
def maxWritten : Nat := 2000

/-- The label that a marked one is written for, if it is the written form of one. -/
def unmarked? (behind : List Char) : Option (List Char) := do
  guard (behind.length ≤ maxWritten && behind.all isAscii)
  let plain ← Punycode.decode? behind
  guard (!plain.all isAscii && compared? plain = some plain && Punycode.encode plain = behind)
  return plain

/-- The label of characters in their compared form, if they may form one. -/
def Label.ofCompared? (cs : List Char) : Option Label := do
  match Text.stripFront? mark cs with
  | some behind =>
    let plain ← unmarked? behind
    if mayFormLabel plain then some ⟨plain, cs⟩ else none
  | none =>
    if cs.all isAscii then some ⟨cs, cs⟩
    else if mayFormLabel cs then some ⟨cs, mark ++ Punycode.encode cs⟩
    else none

/-! ## Names -/

/-- The ASCII form of a domain name given by its bytes. -/
def ofBytes? (bytes : Bytes) : Option String := do
  let form ← compared? (← bytes.toText?).toList
  let labels ← (Text.splitAt '.' form).mapM Label.ofCompared?
  let isTurned := labels.any fun label => label.plain.any turns
  guard (!isTurned || labels.all fun label => keepsDirection label.plain)
  return String.ofList (((labels.map Label.written).intersperse ['.']).flatten)

end MeshNode.DomainName
