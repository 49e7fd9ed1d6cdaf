import MeshNode.Address
import MeshNode.Bytes

/-!
# Echo messages

The echo requests and replies that measure a peer, and the IPv4 packet around one. The
checksum of the internet protocols is the complement of the one's-complement sum of the
sixteen-bit words; an odd last byte counts as the high byte of a word. Its sum is kept in 32
bits, which is enough for every packet.

A message of the sixth version is built without a checksum, because the operating system
fills it in.
-/

namespace MeshNode

/-- An echo message. -/
structure Echo where
  kind : UInt8
  identifier : UInt16
  sequence : UInt16
  payload : Bytes
  deriving DecidableEq, Repr

namespace Echo

/-- The kind of a reply in version four. -/
def replyV4 : UInt8 := 0

/-- The kind of a request in version four. -/
def requestV4 : UInt8 := 8

/-- The kind of a request in version six. -/
def requestV6 : UInt8 := 128

/-- The kind of a reply in version six. -/
def replyV6 : UInt8 := 129

/-- The four kinds that are echo messages. -/
def kinds : List UInt8 := [requestV4, replyV4, requestV6, replyV6]

/-! ## Checksum -/

/-- The sum of the words of a byte string in 32 bits, added to what was summed before. -/
def wordSum (sum : UInt32) : Bytes → UInt32
  | high :: low :: rest => wordSum (sum + UInt32.ofNat (Bytes.word high low)) rest
  | [high] => sum + UInt32.ofNat (Bytes.word high 0)
  | [] => sum

/-- Add the carries of a number to its low sixteen bits until none is left. -/
def foldCarries (sum : Nat) : Nat :=
  if sum < 65536 then sum else foldCarries (sum % 65536 + sum / 65536)
termination_by sum
decreasing_by omega

/-- The checksum of a byte string. -/
def checksum (bytes : Bytes) : UInt16 := ~~~ (UInt16.ofNat (foldCarries (wordSum 0 bytes).toNat))

/-- A number as the two bytes of a checksum field. -/
def checksumField (sum : UInt16) : Bytes := Bytes.ofWord sum.toNat

/-! ## Messages -/

/-- What follows the checksum field of a message. -/
def afterChecksum (echo : Echo) : Bytes :=
  Bytes.ofWord echo.identifier.toNat ++ Bytes.ofWord echo.sequence.toNat ++ echo.payload

/-- Whether the sender has to fill in the checksum. -/
def hasChecksum (kind : UInt8) : Bool := kind == requestV4 || kind == replyV4

/-- The bytes of a message of any kind. -/
def encode (echo : Echo) : Bytes :=
  let sum :=
    if hasChecksum echo.kind then checksum ([echo.kind, 0, 0, 0] ++ echo.afterChecksum) else 0
  [echo.kind, 0] ++ checksumField sum ++ echo.afterChecksum

/-- Read a message of one of the four kinds. Its checksum is not looked at. -/
def decode? : Bytes → Option Echo
  | kind :: _ :: _ :: _ ::
      identifierHigh :: identifierLow :: sequenceHigh :: sequenceLow :: payload =>
    if kind ∈ kinds then
      some ⟨kind, UInt16.ofNat (Bytes.word identifierHigh identifierLow),
        UInt16.ofNat (Bytes.word sequenceHigh sequenceLow), payload⟩
    else none
  | _ => none

/-! ## Packets of version four -/

/-- The length of a header without options. -/
def headerLength : Nat := 20

/-- The length that a packet's first byte states for its header. -/
def statedLength (first : UInt8) : Nat := first.toNat % 16 * 4

/-- Whether the first byte states version four. -/
def isVersionFour (first : UInt8) : Bool := first.toNat / 16 == 4

/-- The bytes behind the header, where they begin with one of version four; other bytes are
left as they are. -/
def stripHeader (bytes : Bytes) : Bytes :=
  match bytes with
  | [] => []
  | first :: _ =>
    if headerLength ≤ bytes.length ∧ isVersionFour first ∧ statedLength first ≤ bytes.length then
      bytes.drop (statedLength first)
    else bytes

/-- The protocol number of echo messages in a header. -/
def protocol : UInt8 := 1

/-- How many hops a packet may take. -/
def timeToLive : UInt8 := 64

/-- The header of a packet with a given checksum. The total length wraps at sixteen bits. -/
def ipHeader (identification : UInt16) (source destination : BitVec 32) (length : Nat)
    (sum : UInt16) : Bytes :=
  [0x45, 0] ++ Bytes.ofWord (headerLength + length) ++ Bytes.ofWord identification.toNat ++
    [0x40, 0, timeToLive, protocol] ++ checksumField sum ++
    Bytes.ofNat 4 source.toNat ++ Bytes.ofNat 4 destination.toNat

/-- The packet that carries a message from one address to another. -/
def packet (identification : UInt16) (source destination : BitVec 32) (echo : Echo) : Bytes :=
  let message := echo.encode
  let header := ipHeader identification source destination message.length
  header (checksum (header 0)) ++ message

/-- The number of four bytes as an address. -/
def addressAt? (bytes : Bytes) (place : Nat) : Option (BitVec 32) :=
  (bytes.slice? place 4).map fun octets => BitVec.ofNat 32 (Bytes.toNat octets)

/-- The source, the destination and the message of a packet of version four. -/
def ofPacket? (bytes : Bytes) : Option (BitVec 32 × BitVec 32 × Echo) := do
  let first ← bytes[0]?
  let stated ← bytes[9]?
  let source ← addressAt? bytes 12
  let destination ← addressAt? bytes 16
  guard (isVersionFour first ∧ stated = protocol)
  let echo ← decode? (stripHeader bytes)
  return (source, destination, echo)

end Echo

end MeshNode
