import MeshNode.Address

/-!
# IPv4 addresses in parts

The historic spellings of an IPv4 address have one to four parts with dots between them, each
decimal, octal behind a leading zero or hexadecimal behind `0x`. All parts but the last are octets,
and the last one fills what the others leave: `127.1` is 127.0.0.1.
-/

namespace MeshNode.Address

/-- Read one part. -/
def part? : List Char → Option Nat
  | [] => none
  | '0' :: 'x' :: rest => Text.number? 16 rest
  | '0' :: 'X' :: rest => Text.number? 16 rest
  | '0' :: digit :: rest => Text.number? 8 (digit :: rest)
  | cs => Text.number? 10 cs

/-- The bits that parts write. -/
def ofParts? (parts : List Nat) : Option (BitVec 32) := do
  let last ← parts.getLast?
  let front := parts.dropLast
  guard (front.length ≤ 3 ∧ front.all (· < 256) ∧ last < 1 <<< (8 * (4 - front.length)))
  let high := front.zipIdx.foldl (fun n (part, place) => n + (part <<< (8 * (3 - place)))) 0
  return BitVec.ofNat 32 (high + last)

/-- Whether a part announces hexadecimal digits and has none. -/
def isBareMark (cs : List Char) : Bool := cs = ['0', 'x'] || cs = ['0', 'X']

/-- Read an address in parts, each of which has a digit of its own. -/
def parseParts? (cs : List Char) : Option (BitVec 32) := do
  let pieces := Text.splitAt '.' cs
  guard (!pieces.any isBareMark)
  ofParts? (← pieces.mapM part?)

end MeshNode.Address
