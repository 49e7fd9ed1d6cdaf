import MeshNode.Json.Fields
import MeshNode.Applier
import MeshNode.LocalNode

/-!
# Tunnel peers, reports and nodes as JSON

How the tunnel's objects are written for readers, and how a tunnel peer and a local node are
read from a request.
-/

namespace MeshNode

/-- Read a method's name. -/
def PeeringMethod.ofJson? : Json → Option PeeringMethod := Json.parsed? PeeringMethod.ofName?

/-- Write a method's name. -/
def PeeringMethod.toJson (method : PeeringMethod) : Json := .string method.name

/-- Write a tunnel peer with all its fields. -/
def TunnelPeer.toJson (peer : TunnelPeer) : Json :=
  .object
    [("public_key", Json.ofKey peer.publicKey),
      ("endpoint", .string peer.endpoint.print),
      ("allowed_ips", PeerRecord.networksJson peer.allowed),
      ("persistent_keepalive",
        Json.nullable (fun seconds => Json.ofNat seconds.toNat) peer.keepalive),
      ("method", peer.method.toJson)]

/-- Read a tunnel peer, its endpoint by a given reader. The keepalive is absent and the method
reflexive where they are not given. -/
def TunnelPeer.readWith? (endpoint? : Json → Option SocketAddress) (value : Json) :
    Option TunnelPeer := do
  let publicKey ← value.required Json.publicKey? "public_key"
  let endpoint ← value.required endpoint? "endpoint"
  let allowed ← value.listIn Json.network? "allowed_ips"
  let keepalive ← value.optional (Json.natBelow? 65536) "persistent_keepalive"
  let method ← value.defaulting .reflexive PeeringMethod.ofJson? "method"
  return { publicKey, endpoint, allowed, keepalive := keepalive.map UInt16.ofNat, method }

/-- Read a tunnel peer. -/
def TunnelPeer.ofJson? : Json → Option TunnelPeer := TunnelPeer.readWith? Json.socket?

/-- Read a local node; what is not given is false, empty or unknown. -/
def LocalNode.ofJson? (value : Json) : Option LocalNode := do
  let publicKey ← value.required Json.publicKey? "public_key"
  let reflexive ← value.required Json.socket? "reflexive"
  let relay ← value.flag "relay"
  let symmetricNat ← value.flag "symmetric_nat"
  let relayOnly ← value.flag "relay_only"
  let relaySupernet ← value.listOrEmpty Json.network? "relay_supernet"
  let id ← value.optional Json.uuid? "id"
  return { id, publicKey, reflexive, relay, symmetricNat, relayOnly, relaySupernet }

/-- The kind of a tunnel error. -/
def TunnelError.kind : TunnelError → String
  | .io _ => "Io"
  | .spawn _ _ => "Spawn"
  | .command _ _ _ _ => "Command"
  | .wireGuard _ => "WireGuard"
  | .peerNotFound _ => "PeerNotFound"
  | .notRunning => "NotRunning"

/-- A tunnel error by its kind and wording. -/
def TunnelError.toJson (error : TunnelError) : Json := Json.failureText error.kind error.message

/-- What became of one pass. -/
def ApplyReport.toJson (report : ApplyReport) : Json :=
  let failure := fun ((key, error) : PublicKey × TunnelError) =>
    Json.object
      [("peer", Json.ofKey key), ("error", .string error.kind), ("message", .string error.message),
        ("listed", .bool (report.failed key))]
  .object
    [("configured", Json.ofKeys report.configured),
      ("removed", Json.ofKeys report.removed),
      ("failures", .array (report.failures.map failure)),
      ("exit_node_candidates", Json.ofKeys report.exitNodeCandidates),
      ("clean", .bool report.isClean),
      ("empty", .bool report.isEmpty)]

/-- Tunnel peers by their keys. -/
def TunnelPeer.tableJson (peers : Table PublicKey TunnelPeer) : Json :=
  .object (peers.entries.map fun (key, peer) => (key.toBase64, peer.toJson))

end MeshNode
