import MeshNode.CryptokeyTable
import MeshNode.Echo
import MeshNode.Probe

/-!
# The userspace tunnel

A tunnel inside the program, without an interface of the operating system: one datagram
socket and one encrypted session per peer. The only packets that it originates or answers are
echoes of version four, which is enough to measure peers and to be measured by them.

Encryption is a parameter. A session takes a packet and hands out a datagram or keeps the
packet until a handshake is done; it takes a datagram and refuses or accepts it. A datagram
goes to the session whose endpoint it came from; where there is none, to the first session
that accepts it, and that peer's endpoint is where it came from from then on.

A ping waits under its sequence number. It is over when a reply with the tunnel's identifier
and that number comes out of any session, or when whoever started it gives it up.
-/

namespace MeshNode

/-- What a session makes of a packet that is to be sent. -/
inductive Encapsulation where
  | datagram (content : Bytes)
  /-- The packet waits for a handshake that is under way. -/
  | queued
  | failed (reason : String)
  deriving DecidableEq, Repr

/-- What an accepted datagram comes to: datagrams that answer it, and the packet of version four
that it carried. -/
structure Decapsulation where
  answers : List Bytes
  packet : Option Bytes
  deriving DecidableEq, Repr

/-- Encrypted sessions with states of type `Session`. -/
structure SessionProtocol (Session : Type) where
  /-- A new session with a peer, with the seconds between its keepalives. -/
  start : PublicKey → Option UInt16 → Session
  encapsulate : Bytes → Session → Encapsulation × Session
  /-- The answer to a datagram from an address; absent where the session refuses it. -/
  decapsulate : Address → Bytes → Session → Option Decapsulation × Session

/-- A datagram socket over states of type `World`, and the numbers that identify packets. -/
structure DatagramSocket (World : Type) where
  send : SocketAddress → Bytes → World → Except String Unit × World
  identification : World → UInt16 × World

/-- A peer's session and where its datagrams go. -/
structure PeerSession (Session : Type) where
  session : Session
  endpoint : SocketAddress
  deriving DecidableEq, Repr

/-- The state of a userspace tunnel. -/
structure UserspaceTunnel (Session : Type) where
  /-- Whether the socket is open. -/
  running : Bool := false
  addresses : List Network := []
  peers : Table PublicKey (PeerSession Session) := Table.empty
  cryptokeys : CryptokeyTable := {}
  /-- The tracked routes, truncated, each once. -/
  routes : List Network := []
  /-- The sequence numbers of the pings that wait. -/
  pending : List UInt16 := []
  identifier : UInt16 := 0
  nextSequence : UInt16 := 1
  deriving DecidableEq, Repr

namespace UserspaceTunnel

/-- The payload of a ping. -/
def pingPayload : Bytes := Bytes.ofText "weft-probe"

variable {Session World : Type} (protocol : SessionProtocol Session) (socket : DatagramSocket World)

/-! ## Configuration -/

/-- Set the addresses, and open the socket if it is not open yet. -/
def setup (bind : World → Except String Unit × World) (addresses : List Network)
    (tunnel : UserspaceTunnel Session) (world : World) :
    Except TunnelError Unit × UserspaceTunnel Session × World :=
  let tunnel := { tunnel with addresses }
  if tunnel.running then (.ok (), tunnel, world)
  else
    match bind world with
    | (.ok (), world) => (.ok (), { tunnel with running := true }, world)
    | (.error text, world) => (.error (.io text), tunnel, world)

/-- Add a peer with a new session, or move the endpoint of a known one; either way it gets exactly
its allowed prefixes. -/
def configure (peer : TunnelPeer) (tunnel : UserspaceTunnel Session) : UserspaceTunnel Session :=
  let known := match tunnel.peers.get? peer.publicKey with
    | some known => { known with endpoint := peer.endpoint }
    | none => ⟨protocol.start peer.publicKey (peer.keepalive.filter (0 < ·)), peer.endpoint⟩
  { tunnel with
    peers := tunnel.peers.insert peer.publicKey known
    cryptokeys := tunnel.cryptokeys.assign peer.publicKey peer.allowed }

/-- Remove a peer and its prefixes. -/
def remove (key : PublicKey) (tunnel : UserspaceTunnel Session) : UserspaceTunnel Session :=
  { tunnel with peers := tunnel.peers.erase key, cryptokeys := tunnel.cryptokeys.remove key }

/-- Track a route. -/
def addRoute (network : Network) (tunnel : UserspaceTunnel Session) : UserspaceTunnel Session :=
  if network.truncate ∈ tunnel.routes then tunnel
  else { tunnel with routes := tunnel.routes ++ [network.truncate] }

/-- Track a route no longer. -/
def deleteRoute (network : Network) (tunnel : UserspaceTunnel Session) : UserspaceTunnel Session :=
  { tunnel with routes := tunnel.routes.filter (· ≠ network.truncate) }

/-- Answer one request; none of them fails. -/
def answer : (request : Request) → UserspaceTunnel Session →
    Except TunnelError request.Reply × UserspaceTunnel Session
  | .configure peer, tunnel => (.ok (), tunnel.configure protocol peer)
  | .remove key, tunnel => (.ok (), tunnel.remove key)
  | .routeExists network, tunnel => (.ok (tunnel.routes.contains network.truncate), tunnel)
  | .addRoute network, tunnel => (.ok (), tunnel.addRoute network)
  | .deleteRoute network, tunnel => (.ok (), tunnel.deleteRoute network)

/-- The userspace tunnel as a driver. -/
def driver : Driver (UserspaceTunnel Session) := ⟨answer protocol⟩

/-! ## Sending -/

/-- Put a session in the place of a peer's. -/
def keepSession (key : PublicKey) (peer : PeerSession Session) (session : Session)
    (tunnel : UserspaceTunnel Session) : UserspaceTunnel Session :=
  { tunnel with peers := tunnel.peers.insert key { peer with session } }

/-- Encrypt a packet for a peer and send what comes out. -/
def sendTo (key : PublicKey) (peer : PeerSession Session) (packet : Bytes)
    (tunnel : UserspaceTunnel Session) (world : World) :
    Except TunnelError Unit × UserspaceTunnel Session × World :=
  if !tunnel.running then (.error .notRunning, tunnel, world)
  else
    let (encapsulation, session) := protocol.encapsulate packet peer.session
    let tunnel := tunnel.keepSession key peer session
    match encapsulation with
    | .queued => (.ok (), tunnel, world)
    | .failed reason => (.error (.wireGuard reason), tunnel, world)
    | .datagram content =>
      let (sent, world) := socket.send peer.endpoint content world
      (sent.mapError .io, tunnel, world)

/-- The peer that carries packets to an address: a tracked route must contain the address, and the
cryptokey table must name a configured peer. -/
def carrier? (tunnel : UserspaceTunnel Session) (destination : Address) :
    Option (PublicKey × PeerSession Session) := do
  guard (tunnel.routes.any fun network => network.contains destination)
  let key ← tunnel.cryptokeys.route? destination
  let peer ← tunnel.peers.get? key
  return (key, peer)

/-- The failure of a probe whose packet could not be sent. -/
def probeError (destination : Address) : TunnelError → ProbeError
  | .io text => .io text
  | _ => .noRoute destination

/-- Send a packet to an address inside the tunnel. -/
def sendPacket (destination : Address) (packet : Bytes) (tunnel : UserspaceTunnel Session)
    (world : World) : Except ProbeError Unit × UserspaceTunnel Session × World :=
  match tunnel.carrier? destination with
  | none => (.error (.noRoute destination), tunnel, world)
  | some (key, peer) =>
    let (sent, tunnel, world) := sendTo protocol socket key peer packet tunnel world
    (sent.mapError (probeError destination), tunnel, world)

/-! ## Pings -/

/-- The first own address of version four. -/
def sourceV4? (tunnel : UserspaceTunnel Session) : Option (BitVec 32) :=
  tunnel.addresses.findSome? fun network =>
    match network.address with
    | .v4 bits => some bits
    | .v6 _ => none

/-- Wait for a reply no longer. -/
def abandon (sequence : UInt16) (tunnel : UserspaceTunnel Session) : UserspaceTunnel Session :=
  { tunnel with pending := tunnel.pending.filter (· ≠ sequence) }

/-- Take the next sequence number for a ping. -/
def register (tunnel : UserspaceTunnel Session) : UInt16 × UserspaceTunnel Session :=
  let sequence := tunnel.nextSequence
  (sequence,
    { tunnel with
      nextSequence := sequence + 1
      pending := tunnel.pending.filter (· ≠ sequence) ++ [sequence] })

/-- Start a ping: the answer is the sequence number that it waits under, or why nothing was
sent. -/
def ping (destination : Address) (tunnel : UserspaceTunnel Session) (world : World) :
    Except ProbeError UInt16 × UserspaceTunnel Session × World :=
  match destination with
  | .v6 _ => (.error .ipv4Only, tunnel, world)
  | .v4 bits =>
    match tunnel.sourceV4? with
    | none => (.error (.noRoute destination), tunnel, world)
    | some source =>
      let (sequence, tunnel) := tunnel.register
      let (identification, world) := socket.identification world
      let echo : Echo := ⟨Echo.requestV4, tunnel.identifier, sequence, pingPayload⟩
      let packet := Echo.packet identification source bits echo
      match sendPacket protocol socket destination packet tunnel world with
      | (.error error, tunnel, world) => (.error error, tunnel.abandon sequence, world)
      | (.ok (), tunnel, world) => (.ok sequence, tunnel, world)

/-! ## Receiving -/

/-- Whether an address is one of the tunnel's own. -/
def owns (tunnel : UserspaceTunnel Session) (address : Address) : Bool :=
  tunnel.addresses.any fun network => network.address = address

/-- The sessions that a datagram is offered to, in their order: the one whose endpoint it came from
alone, or all of them. -/
def candidates (tunnel : UserspaceTunnel Session) (source : SocketAddress) : List PublicKey :=
  match tunnel.peers.entries.find? fun entry => entry.2.endpoint = source with
  | some (key, _) => [key]
  | none => tunnel.peers.keys

/-- Offer a datagram to sessions until one accepts it; the answer names that one. Also a session
that refuses may move on. -/
def offer (source : SocketAddress) (content : Bytes) :
    List PublicKey → UserspaceTunnel Session →
      Option (PublicKey × Decapsulation) × UserspaceTunnel Session
  | [], tunnel => (none, tunnel)
  | key :: rest, tunnel =>
    match tunnel.peers.get? key with
    | none => offer source content rest tunnel
    | some peer =>
      let (decapsulation, session) := protocol.decapsulate source.address content peer.session
      let tunnel := tunnel.keepSession key peer session
      match decapsulation with
      | some accepted => (some (key, accepted), tunnel)
      | none => offer source content rest tunnel

/-- Move a peer's endpoint. -/
def roam (key : PublicKey) (source : SocketAddress) (tunnel : UserspaceTunnel Session) :
    UserspaceTunnel Session :=
  match tunnel.peers.get? key with
  | some peer => { tunnel with peers := tunnel.peers.insert key { peer with endpoint := source } }
  | none => tunnel

/-- Send datagrams to an endpoint; one that cannot be sent is lost. -/
def sendAll (destination : SocketAddress) (contents : List Bytes) (world : World) : World :=
  contents.foldl (fun world content => (socket.send destination content world).2) world

/-- Answer a request for an echo to the peer that it came from; an answer that cannot be sent is
lost. -/
def reply (key : PublicKey) (source destination : BitVec 32) (echo : Echo)
    (tunnel : UserspaceTunnel Session) (world : World) : UserspaceTunnel Session × World :=
  match tunnel.peers.get? key with
  | none => (tunnel, world)
  | some peer =>
    let (identification, world) := socket.identification world
    let packet := Echo.packet identification destination source { echo with kind := Echo.replyV4 }
    let (_, tunnel, world) := sendTo protocol socket key peer packet tunnel world
    (tunnel, world)

/-- What a packet from a peer does: a reply with the tunnel's identifier ends the ping under its
sequence number, a request to an own address is answered, anything else is dropped. The list
holds the ping that ended. -/
def takePacket (key : PublicKey) (packet : Bytes) (tunnel : UserspaceTunnel Session)
    (world : World) : List UInt16 × UserspaceTunnel Session × World :=
  match Echo.ofPacket? packet with
  | none => ([], tunnel, world)
  | some (source, destination, echo) =>
    if echo.kind = Echo.replyV4 ∧ echo.identifier = tunnel.identifier then
      (tunnel.pending.filter (· = echo.sequence), tunnel.abandon echo.sequence, world)
    else if echo.kind = Echo.requestV4 ∧ tunnel.owns (.v4 destination) then
      let (tunnel, world) := reply protocol socket key source destination echo tunnel world
      ([], tunnel, world)
    else ([], tunnel, world)

/-- Take a datagram from the socket. The list holds the ping that it ended. -/
def receive (source : SocketAddress) (content : Bytes) (tunnel : UserspaceTunnel Session)
    (world : World) : List UInt16 × UserspaceTunnel Session × World :=
  match offer protocol source content (tunnel.candidates source) tunnel with
  | (none, tunnel) => ([], tunnel, world)
  | (some (key, accepted), tunnel) =>
    let tunnel := tunnel.roam key source
    let world := sendAll socket source accepted.answers world
    match accepted.packet with
    | none => ([], tunnel, world)
    | some packet => takePacket protocol socket key packet tunnel world

end UserspaceTunnel

end MeshNode
