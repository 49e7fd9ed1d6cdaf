import MeshNode.LocalNode
import MeshNode.Tunnel

/-!
# Path selection

How the local node reaches one peer. The first rule that applies decides:

1. Both have the same reflexive address: dial the peer's endpoint on the shared
   network, whatever its NAT. A relay-only node does so only with relays.
2. The peer is a relay, or the local node is: dial the reflexive endpoint. A relay
   peer carries the organization's whole network.
3. Either side is behind a symmetric NAT, or the local node is relay-only: go through
   a healthy relay, or not at all.
4. Otherwise dial the reflexive endpoint.

A rule that dials an endpoint which is not published yet leaves the peer converging.
-/

namespace MeshNode

/-- The path to one peer. -/
inductive PeerPath where
  | direct (peer : TunnelPeer)
  /-- The peer's own prefixes ride on the relay's. -/
  | viaRelay (child : List Network)
  /-- The endpoint that the method needs is not published yet. -/
  | converging (method : PeeringMethod)
  /-- The peer can only be reached through a relay and none is healthy. -/
  | unreachable
  deriving DecidableEq, Repr

namespace PeerPath

/-- The kind of a path. -/
def kind : PeerPath → String
  | .direct _ => "direct"
  | .viaRelay _ => "via-relay"
  | .converging _ => "converging"
  | .unreachable => "unreachable"

/-- The method that a path uses or will use. -/
def method? : PeerPath → Option PeeringMethod
  | .direct peer => some peer.method
  | .viaRelay _ => some .viaRelay
  | .converging method => some method
  | .unreachable => none

/-- The prefixes a directly reached peer may use: the organization's network for a relay
peer where it is known, else the peer's own, and then what the peer advertises. -/
def allowedFor (node : LocalNode) (record : PeerRecord) (method : PeeringMethod) : List Network :=
  let base :=
    if method.usesRelaySupernet && !node.relaySupernet.isEmpty then node.relaySupernet
    else record.allowed
  Network.distinct (base ++ record.advertised)

/-- Dial an endpoint, or wait for it. -/
def dial (node : LocalNode) (record : PeerRecord) (method : PeeringMethod) :
    Option SocketAddress → PeerPath
  | none => .converging method
  | some endpoint =>
    .direct
      { publicKey := record.publicKey
        endpoint
        allowed := allowedFor node record method
        keepalive := none
        method }

/-- The peer's dialable reflexive address. -/
def reflexiveSocket? (record : PeerRecord) : Option SocketAddress :=
  record.reflexiveEndpoint?.bind Endpoint.socket?

/-- The peer's dialable address on its own network. -/
def localSocket? (record : PeerRecord) : Option SocketAddress :=
  record.localEndpoint?.bind Endpoint.socket?

/-- Whether peer and local node are seen at the same reflexive address. -/
def sameNetwork (node : LocalNode) (record : PeerRecord) : Bool :=
  match reflexiveSocket? record with
  | some socket => socket.address == node.reflexive.address
  | none => false

/-- The method on a shared network. -/
def localMethod (node : LocalNode) (record : PeerRecord) : PeeringMethod :=
  if record.relay then .relayPeerDirectLocal
  else if node.relay then .relaySelfDirectLocal
  else .directLocal

/-- Choose the path to a peer; `relayHealthy` tells whether a relay may be used. -/
def select (node : LocalNode) (record : PeerRecord) (relayHealthy : Bool) : PeerPath :=
  if sameNetwork node record && (record.relay || node.relay || !node.relayOnly) then
    dial node record (localMethod node record) (localSocket? record)
  else if record.relay then dial node record .relayPeer (reflexiveSocket? record)
  else if node.relay then dial node record .relaySelf (reflexiveSocket? record)
  else if node.relayOnly || node.symmetricNat || record.symmetricNat then
    if relayHealthy then .viaRelay record.advertised else .unreachable
  else dial node record .reflexive (reflexiveSocket? record)

end PeerPath

end MeshNode
