import MeshNode.Rehearsal
import MeshNode.Rehearsal.Isolation
import MeshNode.Tunnel.Wire

/-!
# Rehearsing the userspace tunnel

The cryptokey table by itself, userspace tunnels of several nodes on an isolated host, and echoes
through the system of such a host.
-/

namespace MeshNode.Rehearsal

/-- One operation on the cryptokey table. -/
def cryptokeyAction (table : CryptokeyTable) (step : Json) : Option (Json × CryptokeyTable) := do
  match ← actionOf step with
  | "add" =>
    let network ← step.required Json.network? "prefix"
    return (.null, table.add network (← step.required Json.publicKey? "peer"))
  | "set" =>
    let peer ← step.required Json.publicKey? "peer"
    return (.null, table.assign peer (← step.listIn Json.network? "prefixes"))
  | "remove" => return (.null, table.remove (← step.required Json.publicKey? "peer"))
  | "route" =>
    return (Json.nullable Json.ofKey (table.route? (← step.required Json.address? "dst")), table)
  | "routes_for" =>
    let networks := table.networksOf (← step.required Json.publicKey? "peer")
    return (PeerRecord.networksJson networks, table)
  | _ => none

/-- One operation and the number of prefixes after it. -/
def cryptokeyStep (table : CryptokeyTable) (step : Json) : Option (Json × CryptokeyTable) := do
  let (result, table) ← cryptokeyAction table step
  return (.object [("result", result), ("count", Json.ofNat table.size)], table)

/-- Rehearse the cryptokey table. -/
def cryptokeyTable (request : Json) : Option Json := do
  return .ok (.array (← runSteps cryptokeyStep {} (← stepsOf request)))

/-- A node of a rehearsal: its key and its tunnel. -/
structure OverlayNode where
  key : PrivateKey
  tunnel : UserspaceTunnel Bool

/-- Open the socket of a tunnel, which always succeeds. -/
def openTunnel (addresses : List Network) (tunnel : UserspaceTunnel Bool) : UserspaceTunnel Bool :=
  (tunnel.setup (fun world => (.ok (), world)) addresses ()).2.1

/-- Read a node; one with addresses is set up. -/
def overlayNode? (value : Json) : Option OverlayNode := do
  let key ← value.required Json.privateKey? "private"
  match ← value.optional (Json.listOf? Json.network?) "addresses" with
  | some addresses => return ⟨key, openTunnel addresses {}⟩
  | none => return ⟨key, {}⟩

/-- The socket of the node at a place. -/
def nodeSocket? (nodes : List OverlayNode) (place : Nat) : Option SocketAddress := do
  guard (← nodes[place]?).tunnel.running
  return { address := .loopback, port := UInt16.ofNat (30000 + place) }

/-- Read an endpoint: an address, or the socket of a node. -/
def overlayEndpoint? (nodes : List OverlayNode) (value : Json) : Option SocketAddress := do
  let text ← value.text?
  match Text.after? "node:" text with
  | some place => nodeSocket? nodes (← (Text.unsigned (nodes.length) place).toOption)
  | none => SocketAddress.parse? text

/-- The kind of a failed probe. -/
def probeErrorKind : ProbeError → String
  | .io _ => "Io"
  | .timeout => "Timeout"
  | .noRoute _ => "NoRoute"
  | .unsupported _ => "Unsupported"

/-- A failed probe by its kind, and by its wording unless that is the system's or is not wanted. -/
def probeFailure (worded : Bool) : ProbeError → Json
  | .io _ => Json.failure "Io"
  | error =>
    if worded then Json.failureText (probeErrorKind error) error.message
    else Json.failure (probeErrorKind error)

/-- A ping on an isolated host: what is sent is never answered. -/
def overlayPing (worded : Bool) (destination : Address) (tunnel : UserspaceTunnel Bool) :
    Json × UserspaceTunnel Bool :=
  match tunnel.ping lonelySession isolatedSocket destination () with
  | (.error error, tunnel, _) => (probeFailure worded error, tunnel)
  | (.ok sequence, tunnel, _) => (probeFailure worded .timeout, tunnel.abandon sequence)

/-- Carry out a request that answers nothing. -/
def overlayRequest (request : Request) (tunnel : UserspaceTunnel Bool) :
    Json × UserspaceTunnel Bool :=
  (.null, ((UserspaceTunnel.driver lonelySession).answer request tunnel).2)

/-- One operation on the tunnel of a node. -/
def overlayAction (nodes : List OverlayNode) (tunnel : UserspaceTunnel Bool) (step : Json) :
    Option (Json × UserspaceTunnel Bool) := do
  let network := step.required Json.network? "prefix"
  match ← actionOf step with
  | "teardown" => return (.null, tunnel)
  | "setup" =>
    let addresses ← step.listIn Json.network? "addresses"
    return (.object [("result", .null), ("same_socket", .bool tunnel.running)],
      openTunnel addresses tunnel)
  | "configure" =>
    let peer ← step.required (TunnelPeer.readWith? (overlayEndpoint? nodes)) "peer"
    return overlayRequest (.configure peer) tunnel
  | "remove" => return overlayRequest (.remove (← step.required Json.publicKey? "peer")) tunnel
  | "route_exists" =>
    let network ← network
    let found := ((UserspaceTunnel.driver lonelySession).answer (.routeExists network) tunnel).1
    return (.bool (found.toOption.getD false), tunnel)
  | "add_route" => return overlayRequest (.addRoute (← network)) tunnel
  | "del_route" => return overlayRequest (.deleteRoute (← network)) tunnel
  | "ping" | "probe" =>
    let destination ← step.required Json.address? "dst"
    let _ ← step.natOf "timeout_ms"
    return overlayPing ((← actionOf step) = "ping") destination tunnel
  | _ => none

/-- One operation on a node of the overlay. -/
def overlayStep (nodes : List OverlayNode) (step : Json) : Option (Json × List OverlayNode) := do
  let place ← step.natOf "node"
  let node ← nodes[place]?
  let (result, tunnel) ← overlayAction nodes node.tunnel step
  let answer := Json.object
    [("result", result), ("peers", Json.ofNat tunnel.peers.size), ("running", .bool tunnel.running)]
  return (answer, nodes.set place { node with tunnel })

/-- Rehearse userspace tunnels. -/
def overlay (request : Json) : Option Json := do
  let nodes ← request.listIn overlayNode? "nodes"
  let answers ← runSteps overlayStep nodes (← stepsOf request)
  return .ok (.object
    [("keys", Json.ofKeys (nodes.map fun node => node.key.publicKey)),
      ("kind", .string TunnelKind.userspace.name), ("steps", .array answers)])

/-- Measure an address through the system of an isolated host, as often as wanted. -/
def measureRepeatedly (address : Address) (wait : Nat) : (count : Nat) → SystemEcho → List Json
  | 0, _ => []
  | count + 1, echoes =>
    let (measured, echoes, ()) := echoes.measure isolatedEchoes address wait ()
    let answer := match measured with
      | .ok _ => .string "reply"
      | .error error => probeFailure true error
    answer :: measureRepeatedly address wait count echoes

/-- Rehearse echoes through the system, to a loopback address. -/
def systemEchoes (request : Json) : Option Json := do
  let address ← request.required Json.address? "addr"
  guard (address = .loopback ∨ address = .v6 1)
  let count ← request.defaulting 1 Json.nat? "count"
  let milliseconds ← request.defaulting 1200 Json.nat? "timeout_ms"
  return .ok (.array (measureRepeatedly address (milliseconds * 1000000) count { identifier := 0 }))

end MeshNode.Rehearsal
