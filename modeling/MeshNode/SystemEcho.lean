import MeshNode.Echo
import MeshNode.Probe

/-!
# Echoes through the system

Where the tunnel is an interface of the operating system, a peer is measured by an echo of the
system. Its socket is a datagram socket where the system grants one, and a raw one otherwise.
The system writes an identifier of its own into what a datagram socket sends. A raw socket leaves
it alone and hears the replies to others too, so there the identifier must be that of the request.

Time is counted in nanoseconds from the sending of a request. What arrives and is not the reply is
passed over, and the deadline stays where it is.
-/

namespace MeshNode

/-- A socket for echoes. -/
inductive EchoSocket where
  | datagram
  | raw
  deriving DecidableEq, Repr

/-- What a socket hands out at some time: bytes, or why it cannot receive. -/
structure EchoArrival where
  time : Nat
  received : Except String Bytes

/-- The sockets for echoes that a system has, with states of type `World`. -/
structure EchoSystem (World : Type) where
  grant : Family → EchoSocket → World → Except String Unit × World
  connect : Address → World → Except String Unit × World
  /-- Send a message. The answer is what arrives from then on, in its order. -/
  send : Bytes → World → Except String (List EchoArrival) × World

/-- What distinguishes the echoes of a program: their identifier, and the number of the next. -/
structure SystemEcho where
  identifier : UInt16
  nextSequence : UInt16 := 1
  deriving DecidableEq, Repr

namespace SystemEcho

/-- The payload of a request. -/
def payload : Bytes := Bytes.ofText "weft-probe"

/-- How many bytes of an arrival are looked at. -/
def receiveLimit : Nat := 1500

/-- The kind of a request in a family. -/
def requestKind : Family → UInt8
  | .v4 => Echo.requestV4
  | .v6 => Echo.requestV6

/-- The kind of a reply in a family. -/
def replyKind : Family → UInt8
  | .v4 => Echo.replyV4
  | .v6 => Echo.replyV6

/-- The request that is sent next. -/
def request (family : Family) (echoes : SystemEcho) : Echo :=
  ⟨requestKind family, echoes.identifier, echoes.nextSequence, payload⟩

/-- Whether an echo that a socket heard is the reply to a request. -/
def isReply (family : Family) (socket : EchoSocket) (request echo : Echo) : Bool :=
  echo.kind = replyKind family ∧ echo.sequence = request.sequence ∧
    (socket = .datagram ∨ echo.identifier = request.identifier)

/-- The echo in what a socket received. A raw socket hands out the header of version four too. -/
def echoIn? (bytes : Bytes) : Option Echo :=
  Echo.decode? (Echo.stripHeader (bytes.take receiveLimit))

/-- Wait for a reply until the deadline. The answer is the time that it took. -/
def awaitReply (replies : Echo → Bool) (deadline : Nat) :
    (now : Nat) → List EchoArrival → Except ProbeError Nat
  | _, [] => .error .timeout
  | now, arrival :: later =>
    let now := max now arrival.time
    if deadline ≤ now then .error .timeout
    else
      match arrival.received with
      | .error text => .error (.io text)
      | .ok bytes =>
        match echoIn? bytes with
        | some echo => if replies echo then .ok now else awaitReply replies deadline now later
        | none => awaitReply replies deadline now later

variable {World : Type} (system : EchoSystem World)

/-- Open a socket: a datagram socket if there is one for the family, and else a raw one. -/
def openSocket (family : Family) (world : World) : Except String EchoSocket × World :=
  match system.grant family .datagram world with
  | (.ok (), world) => (.ok .datagram, world)
  | (.error _, world) =>
    match system.grant family .raw world with
    | (.ok (), world) => (.ok .raw, world)
    | (.error text, world) => (.error text, world)

/-- Send a request to an address and wait so long for the reply. -/
def exchange (address : Address) (wait : Nat) (request : Echo) (world : World) :
    Except ProbeError Nat × World :=
  match openSocket system address.family world with
  | (.error text, world) => (.error (.io text), world)
  | (.ok socket, world) =>
    match system.connect address world with
    | (.error text, world) => (.error (.io text), world)
    | (.ok (), world) =>
      match system.send request.encode world with
      | (.error text, world) => (.error (.io text), world)
      | (.ok arrivals, world) =>
        (awaitReply (isReply address.family socket request) wait 0 arrivals, world)

/-- Measure an address. Every measurement has a number of its own, until the numbers come round. -/
def measure (address : Address) (wait : Nat) (echoes : SystemEcho) (world : World) :
    Except ProbeError Nat × SystemEcho × World :=
  let (measured, world) := exchange system address wait (echoes.request address.family) world
  (measured, { echoes with nextSequence := echoes.nextSequence + 1 }, world)

end SystemEcho

end MeshNode
