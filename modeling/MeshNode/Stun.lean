import MeshNode.Address
import MeshNode.Bytes

/-!
# STUN bindings

A reflector tells a node which address its datagrams come from. The node sends a binding
request with a transaction identifier of twelve bytes and takes the answer that carries the
same identifier. A message is a header of twenty bytes and a list of attributes, each padded
to a multiple of four.

The address is that of the first obfuscated attribute that can be decoded, wherever it stands,
because some translators rewrite plain addresses in passing. Only where there is none does the
first plain one count. What lies behind the declared length is never read.
-/

namespace MeshNode.Stun

/-- The identifier that ties an answer to its request. -/
structure TransactionId where
  bytes : Bytes
  length_eq : bytes.length = 12
  deriving DecidableEq, Repr

/-- The identifier of twelve bytes. -/
def TransactionId.ofBytes? (bytes : Bytes) : Option TransactionId :=
  if fits : bytes.length = 12 then some ⟨bytes, fits⟩ else none

/-- Why a reflector gave no mapping. -/
inductive Failure where
  | io (text : String)
  | timeout
  | invalidResponse
  | noServers
  deriving DecidableEq, Repr

/-- The wording of a failure. -/
def Failure.message : Failure → String
  | .io text => s!"I/O error: {text}"
  | .timeout => "timeout waiting for STUN response"
  | .invalidResponse => "invalid STUN response"
  | .noServers => "no STUN servers available"

/-- The four bytes that mark a message of this protocol. -/
def cookie : Bytes := [0x21, 0x12, 0xA4, 0x42]

/-- The message type of a request. -/
def requestType : Nat := 0x0001

/-- The message type of a successful answer. -/
def successType : Nat := 0x0101

/-- The attribute type of a plain address. -/
def plainType : Nat := 0x0001

/-- The attribute type of an obfuscated address. -/
def obfuscatedType : Nat := 0x0020

/-- The header of a message with a body of the given length. -/
def header (messageType length : Nat) (id : TransactionId) : Bytes :=
  Bytes.ofWord messageType ++ Bytes.ofWord length ++ cookie ++ id.bytes

/-- A binding request. -/
def request (id : TransactionId) : Bytes := header requestType 0 id

/-! ## Addresses -/

/-- Combine bytes with the bytes of a mask by exclusive or; the mask is at least as long. -/
def masked (mask value : Bytes) : Bytes := List.zipWith (· ^^^ ·) value mask

/-- The mask of obfuscated addresses: the cookie and the transaction identifier. -/
def obfuscation (id : TransactionId) : Bytes := cookie ++ id.bytes

/-- The mask that changes nothing. -/
def noMask : Bytes := List.replicate 16 0

/-- The value of an address attribute under a mask: a zero byte, the family, the port and the
address. A port is masked by the first two bytes of the mask. -/
def encodeAddress (mask : Bytes) (socket : SocketAddress) : Bytes :=
  let port := masked mask (Bytes.ofWord socket.port.toNat)
  match socket.address with
  | .v4 bits => [0, 1] ++ port ++ masked mask (Bytes.ofNat 4 bits.toNat)
  | .v6 bits => [0, 2] ++ port ++ masked mask (Bytes.ofNat 16 bits.toNat)

/-- The address in an attribute's value, if the value is long enough for its family; bytes
behind the address are ignored. -/
def decodeAddress? (mask : Bytes) : Bytes → Option SocketAddress
  | _ :: family :: high :: low :: rest =>
    let port := UInt16.ofNat (Bytes.toNat (masked mask [high, low]))
    if family = 1 ∧ 4 ≤ rest.length then
      some ⟨.v4 (BitVec.ofNat 32 (Bytes.toNat (masked mask (rest.take 4)))), port, 0⟩
    else if family = 2 ∧ 16 ≤ rest.length then
      some ⟨.v6 (BitVec.ofNat 128 (Bytes.toNat (masked mask (rest.take 16)))), port, 0⟩
    else none
  | _ => none

/-! ## Attributes -/

/-- One attribute of a message: its type, its value and the bytes that fill it up. -/
structure Attribute where
  type : Nat
  value : Bytes
  padding : Bytes
  deriving DecidableEq, Repr

/-- The next multiple of four. -/
def padded (length : Nat) : Nat := (length + 3) / 4 * 4

/-- The bytes of an attribute. -/
def Attribute.encode (entry : Attribute) : Bytes :=
  Bytes.ofWord entry.type ++ Bytes.ofWord entry.value.length ++ entry.value ++ entry.padding

/-- The attributes of a body in their order, up to the first whose value does not lie in the
body; the truth value tells that there was no such. A rest of less than four bytes holds no
attribute. -/
def attributes (body : Bytes) : List Attribute × Bool :=
  match body with
  | typeHigh :: typeLow :: lengthHigh :: lengthLow :: rest =>
    let length := Bytes.word lengthHigh lengthLow
    if rest.length < length then ([], false)
    else
      let entry : Attribute :=
        ⟨Bytes.word typeHigh typeLow, rest.take length, (rest.take (padded length)).drop length⟩
      let (others, complete) := attributes (rest.drop (padded length))
      (entry :: others, complete)
  | _ => ([], true)
termination_by body.length
decreasing_by simp only [List.length_drop, List.length_cons]; omega

/-- The first address of a given attribute type. -/
def firstAddress? (type : Nat) (mask : Bytes) (attributes : List Attribute) :
    Option SocketAddress :=
  (attributes.filter (·.type = type)).findSome? fun entry => decodeAddress? mask entry.value

/-- The address that attributes report: the first obfuscated one, and else the first plain one
if the list is complete. -/
def reportedAddress? (id : TransactionId) (found : List Attribute × Bool) : Option SocketAddress :=
  match firstAddress? obfuscatedType (obfuscation id) found.1 with
  | some socket => some socket
  | none => if found.2 then firstAddress? plainType noMask found.1 else none

/-! ## Responses -/

/-- The body of a successful answer to a request: its first bytes are the header for the given
identifier and some length, and it has the declared number of bytes behind them. -/
def responseBody? (id : TransactionId) (message : Bytes) : Option Bytes := do
  let type ← message.slice? 0 2
  let length ← message.slice? 2 2
  let mark ← message.slice? 4 4
  let transaction ← message.slice? 8 12
  guard (type = Bytes.ofWord successType ∧ mark = cookie ∧ transaction = id.bytes)
  message.slice? 20 (Bytes.toNat length)

/-- The mapping that an answer to a request reports. -/
def readResponse (id : TransactionId) (message : Bytes) : Except Failure SocketAddress :=
  match (responseBody? id message).bind fun body => reportedAddress? id (attributes body) with
  | some socket => .ok socket
  | none => .error .invalidResponse

/-- A successful answer with the given attributes. -/
def responseOf (id : TransactionId) (attributes : List Attribute) : Bytes :=
  let body := attributes.flatMap Attribute.encode
  header successType body.length id ++ body

/-- A successful answer that reports a mapping. -/
def response (id : TransactionId) (mapped : SocketAddress) : Bytes :=
  responseOf id [⟨obfuscatedType, encodeAddress (obfuscation id) mapped, []⟩]

/-! ## Requests over a noisy network -/

/-- A datagram and where it came from. -/
structure Datagram where
  source : SocketAddress
  content : Bytes
  deriving DecidableEq, Repr

/-- How many bytes of a datagram a receiver looks at. -/
def receiveLimit : Nat := 1024

/-- The mapping in a datagram, if it is a reflector's answer to a request. -/
def mappingIn? (server : SocketAddress) (id : TransactionId) (datagram : Datagram) :
    Option SocketAddress :=
  if datagram.source = server then (readResponse id (datagram.content.take receiveLimit)).toOption
  else none

/-- What a request comes to when the given datagrams arrive before its deadline. Everything but
an answer to it is passed over. -/
def awaitMapping (server : SocketAddress) (id : TransactionId) (datagrams : List Datagram) :
    Except Failure SocketAddress :=
  match datagrams.findSome? (mappingIn? server id) with
  | some mapped => .ok mapped
  | none => .error .timeout

/-- What a socket hands out from some time on: a datagram, or why it cannot receive. -/
structure Arrival where
  time : Nat
  received : Except String Datagram

/-- Wait for the answer to a request. What is already there is taken without waiting, and what is
still to come is waited for until the deadline. -/
def awaitAnswer (server : SocketAddress) (id : TransactionId) (deadline : Nat) :
    (now : Nat) → List Arrival → Except Failure SocketAddress
  | _, [] => .error .timeout
  | now, arrival :: later =>
    if now < arrival.time ∧ deadline ≤ arrival.time then .error .timeout
    else
      let now := max now arrival.time
      match arrival.received with
      | .error text => .error (.io text)
      | .ok datagram =>
        if datagram.source ≠ server then awaitAnswer server id deadline now later
        else
          match readResponse id (datagram.content.take receiveLimit) with
          | .ok mapped => .ok mapped
          | .error .invalidResponse => awaitAnswer server id deadline now later
          | .error failure => .error failure

/-- A bound socket: the time at which a datagram has been sent to an address, or why it was not, and
what arrives, in its order. -/
structure Socket where
  send : SocketAddress → Bytes → Except String Nat
  arrivals : List Arrival

/-- Send a request to a reflector and wait so long for its answer. -/
def ask (server : SocketAddress) (id : TransactionId) (wait : Nat) (socket : Socket) :
    Except Failure SocketAddress :=
  match socket.send server (request id) with
  | .error text => .error (.io text)
  | .ok now => awaitAnswer server id (now + wait) now socket.arrivals

end MeshNode.Stun
