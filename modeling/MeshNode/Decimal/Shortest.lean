/-!
# The shortest decimal of a binary fraction

A ratio of natural numbers is rounded to the nearest number with 53 significant
bits, ties to the even one, and that number is written with the fewest decimal
digits that no other such number is nearer to. Of two candidates with equally many
digits the nearer one is written.

Everything is exact: a number with 53 bits is a mantissa over a power of two, and
the numbers that round to it form an interval around it.
-/

namespace MeshNode.Decimal

/-- A positive number `mantissa * 2 ^ up / 2 ^ down`, with at most one of the two
powers in use. -/
structure Binary where
  mantissa : Nat
  up : Nat
  down : Nat
  deriving DecidableEq, Repr

/-- The quotient rounded to the nearest number, a half to the even one. -/
def roundHalfEven (num den : Nat) : Nat :=
  let quotient := num / den
  let remainder := num % den
  if 2 * remainder < den then quotient
  else if den < 2 * remainder then quotient + 1
  else quotient + quotient % 2

/-- Round with the quotient scaled by `2 ^ down / 2 ^ up`. -/
def roundScaled (num den up down : Nat) : Binary :=
  ⟨roundHalfEven (num <<< down) (den <<< up), up, down⟩

/-- The 53-bit number nearest to a positive ratio. -/
def Binary.ofRatio (num den : Nat) : Binary :=
  let height : Int := (num.log2 : Int) - (den.log2 : Int)
  let scaled := fun (shift : Int) => roundScaled num den (-shift).toNat shift.toNat
  let fine := (num <<< (53 - height).toNat) / (den <<< (height - 53).toNat)
  if fine < 1 <<< 53 then scaled (53 - height) else scaled (52 - height)

/-- A ratio's decimal exponent: the power of ten of its first digit, offset by the
given fuel so that it stays natural. -/
def powerBelow (num den : Nat) : (fuel : Nat) → Int → Int
  | 0, power => power
  | fuel + 1, power =>
    if num < den then powerBelow (num * 10) den fuel (power - 1)
    else if den * 10 ≤ num then powerBelow num (den * 10) fuel (power + 1)
    else power

/-- The multiple of a power of ten below a ratio, as a count of that power. -/
def gridBelow (num den : Nat) (power : Int) : Nat :=
  num * Nat.pow 10 (-power).toNat / (den * Nat.pow 10 power.toNat)

/-- Compare `count * 10 ^ power` with a ratio: both sides brought to one scale. -/
def gridSides (count : Nat) (power : Int) (num den : Nat) : Nat × Nat :=
  (count * Nat.pow 10 power.toNat * den, num * Nat.pow 10 (-power).toNat)

/-- The interval of ratios that round to a 53-bit number, over one denominator, and
the number itself between its ends. The ends belong to it where the mantissa is
even. -/
structure Neighbourhood where
  low : Nat
  middle : Nat
  high : Nat
  den : Nat
  closed : Bool
  deriving DecidableEq, Repr

/-- The neighbourhood of a number. Below a power of two the next number is half as
far away. -/
def Binary.neighbourhood (b : Binary) : Neighbourhood :=
  let scale := 1 <<< b.up
  let below := if b.mantissa = 1 <<< 52 then 1 else 2
  { low := (4 * b.mantissa - below) * scale
    middle := 4 * b.mantissa * scale
    high := (4 * b.mantissa + 2) * scale
    den := 4 <<< b.down
    closed := b.mantissa % 2 = 0 }

/-- Whether a point of a decimal grid rounds to the number. -/
def Neighbourhood.holds (n : Neighbourhood) (count : Nat) (power : Int) : Bool :=
  let (point, low) := gridSides count power n.low n.den
  let (point', high) := gridSides count power n.high n.den
  if n.closed then low ≤ point && point' ≤ high else low < point && point' < high

/-- Whether the upper one of two neighbouring grid points is nearer. -/
def Neighbourhood.upperNearer (n : Neighbourhood) (count : Nat) (power : Int) : Bool :=
  let (twice, middle) := gridSides (2 * count + 1) power (2 * n.middle) n.den
  twice < middle

/-- Search the grids with `digits`, `digits + 1`, … digits for a point that rounds to
the number. -/
def searchGrids (n : Neighbourhood) (top : Int) : (fuel digits : Nat) → Nat × Int
  | 0, digits => (gridBelow n.middle n.den (top + 1 - digits), top + 1 - digits)
  | fuel + 1, digits =>
    let power := top + 1 - digits
    let count := gridBelow n.middle n.den power
    match n.holds count power, n.holds (count + 1) power with
    | true, true => if n.upperNearer count power then (count + 1, power) else (count, power)
    | true, false => (count, power)
    | false, true => (count + 1, power)
    | false, false => searchGrids n top fuel (digits + 1)

/-- Positional text with at least one digit on both sides of the point. -/
def positional (count : Nat) (power : Int) : String :=
  let digits := Nat.toDigits 10 count
  let whole := digits ++ List.replicate power.toNat '0'
  let places := (-power).toNat
  let padded := List.replicate (places + 1 - whole.length) '0' ++ whole
  let front := padded.take (padded.length - places)
  let fraction := ((padded.drop (padded.length - places)).reverse.dropWhile (· = '0')).reverse
  String.ofList (front ++ '.' :: (if fraction.isEmpty then ['0'] else fraction))

/-- The shortest decimal of the 53-bit number nearest to a ratio. -/
def shortest (num den : Nat) : String :=
  if num = 0 then "0.0"
  else
    let n := (Binary.ofRatio num den).neighbourhood
    let (count, power) := searchGrids n (powerBelow n.middle n.den 400 0) 17 1
    positional count power

/-- A natural number rounded to 53 significant bits. -/
def toPrecision (n : Nat) : Nat :=
  if n < 1 <<< 53 then n
  else
    let b := Binary.ofRatio n 1
    (b.mantissa <<< b.up) >>> b.down

end MeshNode.Decimal
