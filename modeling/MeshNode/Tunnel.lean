import MeshNode.Peer
import MeshNode.Table

/-!
# The tunnel interface

What a node asks of its tunnel, whichever implements it: configure or remove a
peer, and look at, add or delete a route. A `Driver` answers requests over some
state of its own; it may fail any of them. Everything above this interface is
written for an arbitrary driver, so its laws hold whatever fails.
-/

namespace MeshNode

/-- How a peer is reached. -/
inductive PeeringMethod where
  | directLocal
  | relayPeerDirectLocal
  | relaySelfDirectLocal
  | relayPeer
  | relaySelf
  | viaRelay
  | reflexive
  deriving DecidableEq, Repr

namespace PeeringMethod

/-- Every method. -/
def all : List PeeringMethod :=
  [.directLocal, .relayPeerDirectLocal, .relaySelfDirectLocal, .relayPeer, .relaySelf, .viaRelay,
    .reflexive]

/-- The name of a method. -/
def name : PeeringMethod → String
  | .directLocal => "direct-local"
  | .relayPeerDirectLocal => "relay-peer-direct-local"
  | .relaySelfDirectLocal => "relay-self-direct-local"
  | .relayPeer => "relay-peer"
  | .relaySelf => "relay-self"
  | .viaRelay => "via-relay"
  | .reflexive => "reflexive"

/-- The method with a given name. -/
def ofName? (s : String) : Option PeeringMethod := all.find? (·.name = s)

/-- Whether the peer is a relay that carries the organization's whole network. -/
def usesRelaySupernet : PeeringMethod → Bool
  | .relayPeer | .relayPeerDirectLocal => true
  | _ => false

end PeeringMethod

/-- What the tunnel is told about one peer. -/
structure TunnelPeer where
  publicKey : PublicKey
  endpoint : SocketAddress
  allowed : List Network
  /-- Seconds between keepalives; absent means none. -/
  keepalive : Option UInt16
  method : PeeringMethod
  deriving DecidableEq, Repr

/-- The two implementations of a tunnel. -/
inductive TunnelKind where
  | kernel
  | userspace
  deriving DecidableEq, Repr

namespace TunnelKind

/-- The name of an implementation. -/
def name : TunnelKind → String
  | .kernel => "kernel"
  | .userspace => "userspace"

/-- The implementation with a given name. -/
def ofName? (s : String) : Option TunnelKind :=
  if s = "kernel" then some .kernel else if s = "userspace" then some .userspace else none

end TunnelKind

/-- Why a tunnel request failed. -/
inductive TunnelError where
  | io (text : String)
  | spawn (program reason : String)
  | command (program arguments : String) (status : Int) (stderr : String)
  | wireGuard (text : String)
  | peerNotFound (text : String)
  | notRunning
  deriving DecidableEq, Repr

namespace TunnelError

/-- The wording of a failed request. -/
def message : TunnelError → String
  | .io text => s!"I/O error: {text}"
  | .spawn program reason => s!"failed to spawn {program}: {reason}"
  | .command program arguments status stderr =>
    s!"{program} {arguments} exited with {status}: {stderr}"
  | .wireGuard text => s!"WireGuard error: {text}"
  | .peerNotFound text => s!"peer not found: {text}"
  | .notRunning => "interface not set up"

/-- Whether a command failed and said so with the given words. -/
def mentions (error : TunnelError) (words : String) : Bool :=
  match error with
  | .command _ _ _ stderr => Text.occursIn words stderr
  | _ => false

end TunnelError

/-- One request to the tunnel. -/
inductive Request where
  | configure (peer : TunnelPeer)
  | remove (key : PublicKey)
  | routeExists (network : Network)
  | addRoute (network : Network)
  | deleteRoute (network : Network)
  deriving DecidableEq, Repr

/-- What a granted request answers. -/
abbrev Request.Reply : Request → Type
  | .routeExists _ => Bool
  | .configure _ => Unit
  | .remove _ => Unit
  | .addRoute _ => Unit
  | .deleteRoute _ => Unit

/-- An implementation of the tunnel with states of type `World`: it answers each
request or fails it, and moves to its next state either way. -/
structure Driver (World : Type) where
  answer : (request : Request) → World → Except TunnelError request.Reply × World

/-- A request that was made, and whether it was granted. -/
structure Exchange where
  request : Request
  granted : Bool
  deriving DecidableEq, Repr

namespace Driver

variable {World : Type}

/-- The same driver with every exchange written behind those before it. -/
def logged (driver : Driver World) : Driver (List Exchange × World) where
  answer request state :=
    let (reply, world) := driver.answer request state.2
    (reply, (state.1 ++ [⟨request, reply.isOk⟩], world))

/-- Add a route where it is missing. -/
def ensureRoute (driver : Driver World) (network : Network) (world : World) :
    Except TunnelError Unit × World :=
  match driver.answer (.routeExists network) world with
  | (.error error, world) => (.error error, world)
  | (.ok true, world) => (.ok (), world)
  | (.ok false, world) => driver.answer (.addRoute network) world

/-- Delete routes one after another; a failed deletion does not stop the others. -/
def deleteRoutes (driver : Driver World) (networks : List Network) (world : World) : World :=
  networks.foldl (fun world network => (driver.answer (.deleteRoute network) world).2) world

end Driver

end MeshNode
