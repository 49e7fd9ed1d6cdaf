import MeshNode.LocalNode
import MeshNode.Prober
import MeshNode.Url.Percent

/-!
# The status interface

What a node tells those who ask it on its own host: the list of its peers, whether it is alive,
and, on demand, how the peers of one address family answer a probe. Nothing here waits for the
coordinator or the tunnel; everything is read from the device cache, and only a probe on demand
changes it, as a periodic one does.

A place is matched by the text of its path before anything in it is decoded, so an encoded slash
does not separate names.
-/

namespace MeshNode.Status

/-- The methods of a request. -/
inductive Method where
  | get
  | head
  | post
  | other
  deriving DecidableEq, Repr

/-- The method with a name. -/
def Method.ofName (name : String) : Method :=
  if name = "GET" then .get else if name = "HEAD" then .head else if name = "POST" then .post
  else .other

/-- The places that answer. -/
inductive Place where
  | peers
  | health
  /-- A probe of the family with a name that is still encoded. -/
  | probe (family : List Char)
  deriving DecidableEq, Repr

/-- The place at a path. -/
def place? (path : List Char) : Option Place :=
  if path = "/peers".toList then some .peers
  else if path = "/health".toList then some .health
  else
    match Text.stripFront? "/probe/".toList path with
    | some family => if family.isEmpty || family.contains '/' then none else some (.probe family)
    | none => none

/-- What is answered. -/
inductive Reply where
  | peers (views : List PeerView) (relayPresent relayRequired : Bool)
  | alive (count : Nat)
  | probed (results : Table PublicKey Health)
  | unknownFamily (name : String)
  /-- The encoded name of a family is no text. -/
  | notText
  | notFound
  | methodNotAllowed
  deriving DecidableEq, Repr

/-- The status code of an answer. -/
def Reply.code : Reply → Nat
  | .peers _ _ _ => 200
  | .alive _ => 200
  | .probed _ => 200
  | .unknownFamily _ => 400
  | .notText => 400
  | .notFound => 404
  | .methodNotAllowed => 405

variable (reach : Address → ProbeOutcome) (batchSize : Nat)

/-- Probe the family with an encoded name. -/
def probe (node : LocalNode) (family : List Char) (cache : DeviceCache) : Reply × DeviceCache :=
  match Bytes.toText? (Url.decode family) with
  | none => (.notText, cache)
  | some name =>
    match Family.ofName name with
    | .error _ => (.unknownFamily name, cache)
    | .ok family =>
      let (sweep, cache) := Prober.probeFamily (reach ·.address) batchSize 0 family node.relay cache
      (.probed sweep.results, cache)

/-- The peers as a reader sees them. -/
def peers (node : LocalNode) (cache : DeviceCache) : Reply :=
  .peers cache.list cache.healthyRelay node.symmetricNat

/-- Answer one request for a path. -/
def answer (node : LocalNode) (method : Method) (path : List Char) (cache : DeviceCache) :
    Reply × DeviceCache :=
  match place? path, method with
  | none, _ => (.notFound, cache)
  | some .peers, .get => (peers node cache, cache)
  | some .peers, .head => (peers node cache, cache)
  | some .health, .get => (.alive cache.snapshot.size, cache)
  | some .health, .head => (.alive cache.snapshot.size, cache)
  | some (.probe family), .post => probe reach batchSize node family cache
  | some _, _ => (.methodNotAllowed, cache)

/-! ## Bodies -/

/-- The wire form of a health, without the time of day of the probe, which is left out there. -/
def healthJson (health : Health) : Json :=
  .object [("reachable", .bool health.reachable), ("latency", Health.latencyJson health.latency)]

/-- The body of an answer; only an answer with a value has one that is not plain text. -/
def Reply.body : Reply → Json
  | .peers views relayPresent relayRequired =>
    .object
      [("peers", .array (views.map PeerView.toJson)), ("relay_present", .bool relayPresent),
        ("relay_required", .bool relayRequired)]
  | .alive count => .object [("status", .string "ok"), ("peers", Json.ofNat count)]
  | .probed results =>
    .object (results.entries.map fun (key, health) => (key.toBase64, healthJson health))
  | .unknownFamily name =>
    .object [("error", .string s!"unknown address family '{name}', expected v4 or v6")]
  | .notText => .string "Invalid URL: Invalid UTF-8 in `family`"
  | .notFound => .string ""
  | .methodNotAllowed => .string ""

/-- The body that is sent for a method: a question for the head alone gets none. -/
def bodyFor (method : Method) (reply : Reply) : Json :=
  if method = .head then .string "" else reply.body

end MeshNode.Status
