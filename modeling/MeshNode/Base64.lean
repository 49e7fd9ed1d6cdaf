import MeshNode.Bytes

/-!
# Base64

The standard alphabet, written with padding and read strictly in two modes:
padded text must fill its last group of four with `=`, unpadded text must not
contain `=` at all. In both modes the bits that the last symbol carries beyond
the last byte must be zero, so each byte string has one padded and one unpadded
spelling.

A flaw is found in this order: a lone byte after whole groups that is neither a
symbol nor `=`, then the groups from the front, then the last group. Offsets
count bytes of the text.
-/

namespace MeshNode.Base64

/-- The 64 symbols in the order of their values. -/
def alphabet : List Char :=
  "ABCDEFGHIJKLMNOPQRSTUVWXYZabcdefghijklmnopqrstuvwxyz0123456789+/".toList

/-- The symbol of a six-bit value. -/
def symbol (value : Nat) : Char := alphabet.getD value 'A'

/-- The six-bit value of a symbol's code. -/
def value? (code : UInt8) : Option Nat :=
  let n := code.toNat
  if 65 ≤ n ∧ n ≤ 90 then some (n - 65)
  else if 97 ≤ n ∧ n ≤ 122 then some (n - 97 + 26)
  else if 48 ≤ n ∧ n ≤ 57 then some (n - 48 + 52)
  else if n = 43 then some 62
  else if n = 47 then some 63
  else none

/-- Write bytes in groups of three, each as four symbols; the last group is
filled with `=`. -/
def encodeChars : Bytes → List Char
  | [] => []
  | [a] => [symbol (a.toNat / 4), symbol (a.toNat % 4 * 16), '=', '=']
  | [a, b] =>
    [symbol (a.toNat / 4), symbol (a.toNat % 4 * 16 + b.toNat / 16),
      symbol (b.toNat % 16 * 4), '=']
  | a :: b :: c :: rest =>
    symbol (a.toNat / 4) :: symbol (a.toNat % 4 * 16 + b.toNat / 16) ::
      symbol (b.toNat % 16 * 4 + c.toNat / 64) :: symbol (c.toNat % 64) :: encodeChars rest

/-- The padded text of bytes. -/
def encode (bytes : Bytes) : String := String.ofList (encodeChars bytes)

/-- Why a text is not the encoding of any bytes. -/
inductive Flaw where
  | invalidSymbol (symbol : UInt8) (offset : Nat)
  | invalidLastSymbol (symbol : UInt8) (offset : Nat)
  | invalidLength (length : Nat)
  | invalidPadding
  deriving DecidableEq, Repr

/-- The wording of a flaw. -/
def Flaw.message : Flaw → String
  | .invalidSymbol symbol offset => s!"Invalid symbol {symbol.toNat}, offset {offset}."
  | .invalidLastSymbol symbol offset => s!"Invalid last symbol {symbol.toNat}, offset {offset}."
  | .invalidLength length => s!"Invalid input length: {length}"
  | .invalidPadding => "Invalid padding"

/-- Whether `=` fills the last group or is forbidden. -/
inductive Padding where
  | required
  | forbidden
  deriving DecidableEq, Repr

/-- The value of the symbol at an offset, or the flaw that it is none. -/
def valueAt (offset : Nat) (code : UInt8) : Except Flaw Nat :=
  match value? code with
  | some value => .ok value
  | none => .error (.invalidSymbol code offset)

/-- The three bytes of four six-bit values. -/
def groupBytes (a b c d : Nat) : Bytes :=
  [UInt8.ofNat (a * 4 + b / 16), UInt8.ofNat (b % 16 * 16 + c / 4), UInt8.ofNat (c % 4 * 64 + d)]

/-- The code of `=`. -/
def pad : UInt8 := 61

/-- The symbols of the last group, read up to its padding: the values, the
last symbol's code, and the number of `=` behind them. `=` may only stand in the
third and fourth place, and nothing may follow it. -/
def lastSymbols (start : Nat) :
    (index : Nat) → (values : List Nat) → (last : UInt8) → (firstPad : Option Nat) → (pads : Nat) →
      Bytes → Except Flaw (List Nat × UInt8 × Nat)
  | _, values, last, _, pads, [] => .ok (values.reverse, last, pads)
  | index, values, last, firstPad, pads, code :: rest =>
    if code = pad then
      if index < 2 then .error (.invalidSymbol code (start + index))
      else lastSymbols start (index + 1) values last (some (firstPad.getD index)) (pads + 1) rest
    else
      match firstPad with
      | some first => .error (.invalidSymbol pad (start + first))
      | none =>
        match value? code with
        | none => .error (.invalidSymbol code (start + index))
        | some value => lastSymbols start (index + 1) (value :: values) code none pads rest

/-- Whether the number of `=` in the last group is the one its mode wants. -/
def Padding.fits : Padding → (symbols pads : Nat) → Bool
  | .required, symbols, pads => (symbols + pads) % 4 == 0
  | .forbidden, _, pads => pads == 0

/-- The bytes of the last group's values: two symbols carry one byte, three
carry two, four carry three, and the bits left over must be zero. -/
def lastBytes (start : Nat) (last : UInt8) : List Nat → Except Flaw Bytes
  | [] => .ok []
  | [_] => .error (.invalidLength (start + 1))
  | [a, b] =>
    if b % 16 ≠ 0 then .error (.invalidLastSymbol last (start + 1))
    else .ok [UInt8.ofNat (a * 4 + b / 16)]
  | [a, b, c] =>
    if c % 4 ≠ 0 then .error (.invalidLastSymbol last (start + 2))
    else .ok [UInt8.ofNat (a * 4 + b / 16), UInt8.ofNat (b % 16 * 16 + c / 4)]
  | a :: b :: c :: d :: _ => .ok (groupBytes a b c d)

/-- Read the last group, of at most four places. A single symbol is a wrong
length before its padding is looked at. -/
def decodeLast (padding : Padding) (start : Nat) (codes : Bytes) : Except Flaw Bytes :=
  match lastSymbols start 0 [] 0 none 0 codes with
  | .error flaw => .error flaw
  | .ok (values, last, pads) =>
    if values.length ≠ 1 ∧ !padding.fits values.length pads then .error .invalidPadding
    else lastBytes start last values

/-- The bytes of a text from an offset on: whole groups while more than four
places are left, then the last group. -/
def decodeGroups (padding : Padding) (start : Nat) : Bytes → Except Flaw Bytes
  | a :: b :: c :: d :: e :: rest => do
    let a ← valueAt start a
    let b ← valueAt (start + 1) b
    let c ← valueAt (start + 2) c
    let d ← valueAt (start + 3) d
    let tail ← decodeGroups padding (start + 4) (e :: rest)
    return groupBytes a b c d ++ tail
  | last => decodeLast padding start last

/-- Read the codes of a text. A lone byte after whole groups that could not
stand in any encoding, such as a line end, is reported before anything else. -/
def decodeCodes (padding : Padding) (codes : Bytes) : Except Flaw Bytes :=
  match codes.getLast? with
  | some last =>
    if codes.length % 4 = 1 ∧ last ≠ pad ∧ (value? last).isNone then
      .error (.invalidSymbol last (codes.length - 1))
    else decodeGroups padding 0 codes
  | none => .ok []

/-- Read a text. -/
def decode (padding : Padding) (s : String) : Except Flaw Bytes :=
  decodeCodes padding (Bytes.ofText s)

end MeshNode.Base64
