import MeshNode.Address

/-!
# Network prefixes

A prefix is an address and the number of its leading bits that count. Host bits
are kept as given and take part in equality; `truncate` clears them. A prefix
contains the addresses of its family that share its leading bits.

`distinct` truncates every prefix of a list and keeps the first of equal ones.
-/

namespace MeshNode

/-- An address and a number of leading bits within the address's width. -/
structure Network where
  address : Address
  length : Nat
  length_le : length ≤ address.family.width
  deriving DecidableEq, Repr

namespace Network

/-- The prefix of one address alone. -/
def host (address : Address) : Network := ⟨address, address.family.width, Nat.le_refl _⟩

/-- Clear the bits of a number behind its leading ones. -/
def clearHost (width length n : Nat) : Nat := (n >>> (width - length)) <<< (width - length)

/-- The same prefix with its host bits cleared. -/
def truncate (network : Network) : Network :=
  match network with
  | ⟨.v4 bits, length, fits⟩ =>
    ⟨.v4 (BitVec.ofNat 32 (clearHost 32 length bits.toNat)), length, fits⟩
  | ⟨.v6 bits, length, fits⟩ =>
    ⟨.v6 (BitVec.ofNat 128 (clearHost 128 length bits.toNat)), length, fits⟩

/-- A prefix of length zero covers its whole family. -/
def isDefaultRoute (network : Network) : Bool := network.length == 0

/-- The addresses of the prefix's family that share its leading bits. -/
def contains (network : Network) (address : Address) : Bool :=
  let hostBits := network.address.family.width - network.length
  network.address.family == address.family &&
    network.address.toNat >>> hostBits == address.toNat >>> hostBits

/-- Truncate every prefix and keep the first of equal ones; `seen` are the ones
already kept. -/
def distinctAfter (seen : List Network) : List Network → List Network
  | [] => []
  | network :: rest =>
    if network.truncate ∈ seen then distinctAfter seen rest
    else network.truncate :: distinctAfter (network.truncate :: seen) rest

/-- The truncated prefixes of a list, each once, in the order of their first
occurrence. -/
def distinct (networks : List Network) : List Network := distinctAfter [] networks

open Address

/-- The length of an IPv4 prefix: at most two digits. -/
def lengthV4 : Numeral := ⟨10, some 2, 33, true⟩

/-- The length of an IPv6 prefix: at most three digits. -/
def lengthV6 : Numeral := ⟨10, some 3, 129, true⟩

/-- Read `ADDRESS/LENGTH` in IPv4. -/
def readV4Network : Reader (BitVec 32 × Nat) := fun cs => do
  let (bits, cs) ← readV4 .loose cs
  let (_, cs) ← character '/' cs
  let (length, cs) ← numeral lengthV4 cs
  return ((bits, length), cs)

/-- Read `ADDRESS/LENGTH` in IPv6. -/
def readV6Network : Reader (BitVec 128 × Nat) := fun cs => do
  let (bits, cs) ← readV6 .loose cs
  let (_, cs) ← character '/' cs
  let (length, cs) ← numeral lengthV6 cs
  return ((bits, length), cs)

/-- A prefix of the given length, if the length fits the address. -/
def ofParts? (address : Address) (length : Nat) : Option Network :=
  if fits : length ≤ address.family.width then some ⟨address, length, fits⟩ else none

/-- Read a prefix; a bare address is none. -/
def parse? (s : String) : Option Network :=
  match whole readV4Network s with
  | some (bits, length) => ofParts? (.v4 bits) length
  | none =>
    match whole readV6Network s with
    | some (bits, length) => ofParts? (.v6 bits) length
    | none => none

/-- The text of a prefix, host bits included. -/
def print (network : Network) : String := s!"{network.address.print}/{network.length}"

end Network

end MeshNode
