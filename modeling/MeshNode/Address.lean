import MeshNode.Text

/-!
# Internet addresses

An address is its family and its bits. IPv4 and IPv6 addresses never compare
equal, not even an IPv4 address and the IPv6 address that embeds it. A socket
address adds a port and, for IPv6, a numeric scope.

How strictly an address is spelled is a parameter of the readers, because network
prefixes accept leading zeros in octets, and a `::` that leaves out no group, and
plain addresses do not. The writer prints an IPv6 address with its longest run of
at least two zero groups compressed, the first one on ties, and an IPv4-mapped
address with its IPv4 part in dotted form.
-/

namespace MeshNode

/-- The two address families. -/
inductive Family where
  | v4
  | v6
  deriving DecidableEq, Repr

namespace Family

/-- The number of address bits. -/
def width : Family → Nat
  | .v4 => 32
  | .v6 => 128

/-- The short name of a family. -/
def name : Family → String
  | .v4 => "v4"
  | .v6 => "v6"

/-- Read a family's name in any ASCII case: `v4`, `ipv4` or `4`, and the same
for six. The error is the name in small letters. -/
def ofName (s : String) : Except String Family :=
  let lower := Text.asciiLower s
  if lower = "v4" ∨ lower = "ipv4" ∨ lower = "4" then .ok .v4
  else if lower = "v6" ∨ lower = "ipv6" ∨ lower = "6" then .ok .v6
  else .error lower

/-- The refusal of an unknown family name, given in small letters. -/
def unknownMessage (lower : String) : String :=
  s!"unknown address family: {lower} (expected v4 or v6)"

end Family

/-- An IPv4 or IPv6 address. -/
inductive Address where
  | v4 (bits : BitVec 32)
  | v6 (bits : BitVec 128)
  deriving DecidableEq, Repr

namespace Address

/-- The family of an address. -/
def family : Address → Family
  | .v4 _ => .v4
  | .v6 _ => .v6

/-- The address as a number of its family's width. -/
def toNat : Address → Nat
  | .v4 bits => bits.toNat
  | .v6 bits => bits.toNat

/-- The IPv4 address of four octets. -/
def ofOctets (a b c d : Nat) : Address :=
  .v4 (BitVec.ofNat 32 (((a * 256 + b) * 256 + c) * 256 + d))

/-- The all-zero address of either family stands for no address. -/
def isUnspecified (address : Address) : Bool := address.toNat == 0

/-- The IPv4 address 127.0.0.1. -/
def loopback : Address := ofOctets 127 0 0 1

/-- Order by family, IPv4 first, then by value. -/
def rank (address : Address) : Nat :=
  match address with
  | .v4 bits => bits.toNat
  | .v6 bits => (1 <<< 32) + bits.toNat

/-! ## Readers -/

/-- A reader takes what it wants from the front of a text and returns the rest. -/
abbrev Reader (α : Type) := List Char → Option (α × List Char)

/-- Take one given character. -/
def character (c : Char) : Reader Unit
  | d :: rest => if c = d then some ((), rest) else none
  | [] => none

/-- How a number is spelled: its base, the most digits it may have, the bound it
stays below, and whether a longer numeral may begin with zero. -/
structure Numeral where
  base : Nat
  maxDigits : Option Nat
  bound : Nat
  leadingZeros : Bool
  deriving DecidableEq, Repr

/-- Read the whole run of digits in front as one number under a spelling rule. -/
def numeral (rule : Numeral) : Reader Nat := fun cs =>
  let (ds, rest) := Text.digits rule.base cs
  let value := Text.ofDigits rule.base ds
  let tooLong := match rule.maxDigits with
    | some limit => limit < ds.length
    | none => false
  if ds.isEmpty || tooLong || rule.bound ≤ value then none
  else if !rule.leadingZeros && ds.head? == some 0 && 1 < ds.length then none
  else some (value, rest)

/-- How addresses are spelled: the rule for octets, and the fewest zero groups that
`::` stands for. -/
structure Spelling where
  octet : Numeral
  leastGap : Nat
  deriving DecidableEq, Repr

/-- An address on its own: no octet begins with a zero that does not count, and `::`
leaves out at least one group. -/
def Spelling.plain : Spelling := ⟨⟨10, some 3, 256, false⟩, 1⟩

/-- An address inside a network prefix: leading zeros up to three digits, and a `::`
that may leave out nothing. -/
def Spelling.loose : Spelling := ⟨⟨10, some 3, 256, true⟩, 0⟩

/-- A group of an IPv6 address. -/
def hexGroup : Numeral := ⟨16, some 4, 65536, true⟩

/-- A port: any number of leading zeros. -/
def portNumber : Numeral := ⟨10, none, 65536, true⟩

/-- A numeric scope: any number of leading zeros. -/
def scopeNumber : Numeral := ⟨10, none, 4294967296, true⟩

/-- Read four octets with dots between them. -/
def readV4 (spelling : Spelling) : Reader (BitVec 32) := fun cs => do
  let (a, cs) ← numeral spelling.octet cs
  let (_, cs) ← character '.' cs
  let (b, cs) ← numeral spelling.octet cs
  let (_, cs) ← character '.' cs
  let (c, cs) ← numeral spelling.octet cs
  let (_, cs) ← character '.' cs
  let (d, cs) ← numeral spelling.octet cs
  return (BitVec.ofNat 32 (((a * 256 + b) * 256 + c) * 256 + d), cs)

/-- The separator before every group but the first. -/
def groupSeparator (first : Bool) (cs : List Char) : Option (List Char) :=
  if first then some cs else (character ':' cs).map (·.2)

/-- Read as many groups as stand in front, at most `limit`; where at least two
places are left, an embedded IPv4 address may fill two of them and ends the run.
The answer also says whether it did. -/
def readGroups (spelling : Spelling) :
    (limit : Nat) → (first : Bool) → List Char → List Nat × Bool × List Char
  | 0, _, cs => ([], false, cs)
  | limit + 1, first, cs =>
    let embedded : Option (BitVec 32 × List Char) :=
      if limit = 0 then none
      else (groupSeparator first cs).bind (readV4 spelling)
    match embedded with
    | some (bits, rest) => ([bits.toNat / 65536, bits.toNat % 65536], true, rest)
    | none =>
      match (groupSeparator first cs).bind (numeral hexGroup) with
      | none => ([], false, cs)
      | some (group, rest) =>
        let (groups, ended, behind) := readGroups spelling limit false rest
        (group :: groups, ended, behind)

/-- The number that eight groups write. -/
def ofGroups (groups : List Nat) : BitVec 128 :=
  BitVec.ofNat 128 (groups.foldl (fun n group => n * 65536 + group) 0)

/-- Read eight groups, or fewer with one `::` that stands for the missing ones. An
embedded IPv4 address may only end the address. -/
def readV6 (spelling : Spelling) : Reader (BitVec 128) := fun cs =>
  let (front, ended, cs) := readGroups spelling 8 true cs
  if front.length = 8 then some (ofGroups front, cs)
  else if ended then none
  else do
    let (_, cs) ← character ':' cs
    let (_, cs) ← character ':' cs
    let (back, _, cs) := readGroups spelling (8 - spelling.leastGap - front.length) true cs
    let zeros := List.replicate (8 - front.length - back.length) 0
    return (ofGroups (front ++ zeros ++ back), cs)

/-- A reader that must take the whole text. -/
def whole {α : Type} (reader : Reader α) (s : String) : Option α :=
  match reader s.toList with
  | some (value, []) => some value
  | _ => none

/-- Read an IPv4 address. -/
def parseV4? (s : String) : Option (BitVec 32) := whole (readV4 .plain) s

/-- Read an IPv6 address. -/
def parseV6? (s : String) : Option (BitVec 128) := whole (readV6 .plain) s

/-- Read an address of either family. -/
def parse? (s : String) : Option Address :=
  match parseV4? s with
  | some bits => some (.v4 bits)
  | none => (parseV6? s).map .v6

/-! ## Writer -/

/-- The dotted form of IPv4 bits. -/
def dotted (n : Nat) : String :=
  s!"{n / 16777216 % 256}.{n / 65536 % 256}.{n / 256 % 256}.{n % 256}"

/-- The eight groups of IPv6 bits, the most significant first. -/
def groupsOf (n : Nat) : List Nat :=
  (List.range 8).map fun i => (n >>> (16 * (7 - i))) % 65536

/-- The lengths of the runs of zeros that start at each place. -/
def zeroRuns : List Nat → List Nat
  | [] => []
  | group :: rest =>
    let runs := zeroRuns rest
    (if group = 0 then runs.headD 0 + 1 else 0) :: runs

/-- The first place with the greatest number, if that number is at least two. -/
def longestRun (runs : List Nat) : Option (Nat × Nat) :=
  let best := runs.zipIdx.foldl (fun (best : Nat × Nat) (run, place) =>
    if best.2 < run then (place, run) else best) (0, 0)
  if 2 ≤ best.2 then some best else none

/-- A number in small hexadecimal digits without leading zeros. -/
def hexadecimal (n : Nat) : String := String.ofList (Nat.toDigits 16 n)

/-- Groups with colons between them. -/
def colons (groups : List Nat) : String := Text.joined ":" (groups.map hexadecimal)

/-- IPv6 bits as groups, the longest run of zeros compressed. -/
def compressed (n : Nat) : String :=
  let groups := groupsOf n
  match longestRun (zeroRuns groups) with
  | none => colons groups
  | some (place, run) => s!"{colons (groups.take place)}::{colons (groups.drop (place + run))}"

/-- The text of IPv6 bits. -/
def printV6 (n : Nat) : String :=
  if n >>> 32 = 0xFFFF then s!"::ffff:{dotted n}" else compressed n

/-- The text of an address. -/
def print : Address → String
  | .v4 bits => dotted bits.toNat
  | .v6 bits => printV6 bits.toNat

end Address

/-- An address with a port. The scope belongs to IPv6 addresses and is zero for
IPv4. -/
structure SocketAddress where
  address : Address
  port : UInt16
  scope : UInt32 := 0
  deriving DecidableEq, Repr

namespace SocketAddress

open Address

/-- Read an IPv4 socket address. -/
def readV4Socket : Reader SocketAddress := fun cs => do
  let (bits, cs) ← readV4 .plain cs
  let (_, cs) ← character ':' cs
  let (port, cs) ← numeral portNumber cs
  return (⟨.v4 bits, UInt16.ofNat port, 0⟩, cs)

/-- Read an optional scope after a percent sign. A percent sign without a number
is left standing. -/
def readScope (cs : List Char) : Nat × List Char :=
  match (character '%' cs).bind fun (_, rest) => numeral scopeNumber rest with
  | some (scope, rest) => (scope, rest)
  | none => (0, cs)

/-- Read an IPv6 socket address, its address and scope in brackets. -/
def readV6Socket : Reader SocketAddress := fun cs => do
  let (_, cs) ← character '[' cs
  let (bits, cs) ← readV6 .plain cs
  let (scope, cs) := readScope cs
  let (_, cs) ← character ']' cs
  let (_, cs) ← character ':' cs
  let (port, cs) ← numeral portNumber cs
  return (⟨.v6 bits, UInt16.ofNat port, UInt32.ofNat scope⟩, cs)

/-- Read a socket address of either family. -/
def parse? (s : String) : Option SocketAddress :=
  match whole readV4Socket s with
  | some socket => some socket
  | none => whole readV6Socket s

/-- The text of a socket address; a zero scope is not printed. -/
def print (socket : SocketAddress) : String :=
  match socket.address with
  | .v4 _ => s!"{socket.address.print}:{socket.port.toNat}"
  | .v6 _ =>
    let scope := if socket.scope = 0 then "" else s!"%{socket.scope.toNat}"
    s!"[{socket.address.print}{scope}]:{socket.port.toNat}"

/-- Read the address a peer can be dialled at. Blanks around it are ignored; port
zero and the unspecified address are not dialable. -/
def parseEndpoint? (raw : String) : Option SocketAddress :=
  match parse? (Text.trimmed raw) with
  | none => none
  | some socket =>
    if socket.port = 0 ∨ socket.address.isUnspecified then none else some socket

end SocketAddress

end MeshNode
