import MeshNode.Text

/-!
# Bytes

Octet strings, their hexadecimal text and their big-endian words. A datagram,
a key and a file's content are all lists of bytes; a list keeps the proofs
about encoders and decoders structural.
-/

namespace MeshNode

/-- An octet string. -/
abbrev Bytes := List UInt8

namespace Bytes

/-- The small hexadecimal digit of a number below sixteen. -/
def hexDigit (n : Nat) : Char := "0123456789abcdef".toList.getD n '0'

/-- Two small hexadecimal digits per byte, the high one first. -/
def toHex (bytes : Bytes) : String :=
  String.ofList (bytes.flatMap fun b => [hexDigit (b.toNat / 16), hexDigit (b.toNat % 16)])

/-- Read pairs of hexadecimal digits; an odd digit or a foreign character
refuses the whole text. -/
def ofHexDigits? : List Char → Option Bytes
  | [] => some []
  | [_] => none
  | high :: low :: rest => do
    let h ← Text.digit? 16 high
    let l ← Text.digit? 16 low
    let tail ← ofHexDigits? rest
    return UInt8.ofNat (16 * h + l) :: tail

/-- Read a hexadecimal text of either case. -/
def ofHex? (s : String) : Option Bytes := ofHexDigits? s.toList

/-- The sixteen-bit word with the given high and low byte. -/
def word (high low : UInt8) : Nat := 256 * high.toNat + low.toNat

/-- The two bytes of a number modulo 65536, the high one first. -/
def ofWord (n : Nat) : Bytes := [UInt8.ofNat (n / 256), UInt8.ofNat n]

/-- The number that bytes write in base 256, the most significant first. -/
def toNat (bytes : Bytes) : Nat := bytes.foldl (fun n b => 256 * n + b.toNat) 0

/-- The `count` low bytes of a number, the most significant first. -/
def ofNat : (count : Nat) → Nat → Bytes
  | 0, _ => []
  | count + 1, n => ofNat count (n / 256) ++ [UInt8.ofNat n]

/-- The bytes at `start ..< start + count`, if the string has them all. -/
def slice? (bytes : Bytes) (start count : Nat) : Option Bytes :=
  let piece := (bytes.drop start).take count
  if piece.length = count then some piece else none

/-- The text that bytes encode in UTF-8, if they do. -/
def toText? (bytes : Bytes) : Option String := String.fromUTF8? ⟨bytes.toArray⟩

/-- The UTF-8 encoding of a text. -/
def ofText (s : String) : Bytes := s.toUTF8.toList

end Bytes

end MeshNode
