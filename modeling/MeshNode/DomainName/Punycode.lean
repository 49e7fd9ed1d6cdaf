import MeshNode.Text

/-!
# Punycode

A label with characters outside ASCII is written in ASCII: first its ASCII characters, then a
hyphen, then for every other character how far to move on. A position counts the places for
the next character, place by place and code point by code point, from the first code point
behind ASCII. Each move is written in digits of mixed weight, whose thresholds follow the
moves so far.
-/

namespace MeshNode.Punycode

/-- The number of digits. -/
def base : Nat := 36

/-- The first code point that is not ASCII. -/
def firstCode : Nat := 128

/-- The thresholds before the first move. -/
def firstBias : Nat := 72

/-- The thresholds after a move: the bias follows the size of the moves, and the first move counts
for little. -/
def adaptFrom (k delta : Nat) : Nat :=
  if 455 < delta then adaptFrom (k + base) (delta / 35) else k + 36 * delta / (delta + 38)
termination_by delta

/-- The bias after a move of `delta` that made the label `count` characters long. -/
def adapt (delta count : Nat) (first : Bool) : Nat :=
  let delta := if first then delta / 700 else delta / 2
  adaptFrom 0 (delta + delta / count)

/-- The threshold of the digit at weight place `k`: between 1 and 26. -/
def threshold (k bias : Nat) : Nat := max 1 (min 26 (k - bias))

/-- The character of a digit. -/
def digitChar (n : Nat) : Char := "abcdefghijklmnopqrstuvwxyz0123456789".toList.getD n 'a'

/-- The value of a digit in small letters. -/
def digitValue? (c : Char) : Option Nat :=
  if 'a' ≤ c ∧ c ≤ 'z' then some (c.toNat - 'a'.toNat)
  else if '0' ≤ c ∧ c ≤ '9' then some (c.toNat - '0'.toNat + 26)
  else none

/-! ## Writing -/

/-- The digits of a move. -/
def moveDigits (bias k rest : Nat) : List Char :=
  let t := threshold k bias
  if rest < t then [digitChar rest]
  else
    digitChar (t + (rest - t) % (base - t)) ::
      moveDigits bias (k + base) ((rest - t) / (base - t))
termination_by rest
decreasing_by
  have positive : 1 ≤ threshold k bias := Nat.le_max_left _ _
  have smaller : (rest - threshold k bias) / (base - threshold k bias) ≤ rest - threshold k bias :=
    Nat.div_le_self _ _
  omega

/-- A label under way: the move so far, the bias, how many characters are written, and the
digits. -/
structure Writing where
  delta : Nat := 0
  bias : Nat := firstBias
  written : Nat
  digits : List Char := []

/-- Pass one character of the label while those with a given code point are written. -/
def Writing.pass (basics code : Nat) (state : Writing) (c : Char) : Writing :=
  if c.toNat < code then { state with delta := state.delta + 1 }
  else if c.toNat = code then
    { delta := 0
      bias := adapt state.delta (state.written + 1) (state.written = basics)
      written := state.written + 1
      digits := state.digits ++ moveDigits state.bias base state.delta }
  else state

/-- Write all characters with the next code points; `from` is the first one that is not done. -/
def writeCodes (cs : List Char) (basics : Nat) : (start : Nat) → List Nat → Writing → Writing
  | _, [], state => state
  | start, code :: codes, state =>
    let moved := { state with delta := state.delta + (code - start) * (state.written + 1) }
    let passed := cs.foldl (Writing.pass basics code) moved
    writeCodes cs basics (code + 1) codes { passed with delta := passed.delta + 1 }

/-- The ASCII form of a label, without the mark that tells it apart. -/
def encode (cs : List Char) : List Char :=
  let basic := cs.filter (·.toNat < firstCode)
  let codes := ((cs.map Char.toNat).filter (firstCode ≤ ·)).eraseDups.mergeSort
  let state := writeCodes cs basic.length firstCode codes { written := basic.length }
  basic ++ (if basic.isEmpty then [] else ['-']) ++ state.digits

/-! ## Reading -/

/-- Read a move and return what stands behind it. -/
def readMove (bias : Nat) : (k weight total : Nat) → List Char → Option (Nat × List Char)
  | _, _, _, [] => none
  | k, weight, total, c :: rest => do
    let digit ← digitValue? c
    let t := threshold k bias
    if digit < t then return (total + digit * weight, rest)
    else readMove bias (k + base) (weight * (base - t)) (total + digit * weight) rest

/-- Carry out moves until the text ends. `fuel` bounds the number of moves. -/
def readMoves : (fuel : Nat) → (code place bias : Nat) → List Char → List Char → Option (List Char)
  | _, _, _, _, cs, [] => some cs
  | 0, _, _, _, _, _ :: _ => none
  | fuel + 1, code, place, bias, cs, text => do
    let (move, rest) ← readMove bias base 1 0 text
    let count := cs.length + 1
    let code := code + (place + move) / count
    let place := (place + move) % count
    guard (code.isValidChar)
    let bias := adapt move count (count = (cs.filter (·.toNat < firstCode)).length + 1)
    readMoves fuel code (place + 1) bias (cs.take place ++ Char.ofNat code :: cs.drop place) rest

/-- The label that an ASCII form stands for. -/
def decode? (text : List Char) : Option (List Char) :=
  let pieces := Text.splitAt '-' text
  let basic := (pieces.dropLast.intersperse ['-']).flatten
  let moves := pieces.getLastD []
  readMoves moves.length firstCode 0 firstBias basic moves

end MeshNode.Punycode
