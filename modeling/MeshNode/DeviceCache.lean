import MeshNode.Decimal.Shortest
import MeshNode.Tunnel

/-!
# The device cache

What status readers and the prober see of the mesh. The snapshot maps the identifiers
of the listed devices to their records and paths and is replaced as a whole. Health is
kept apart, by key: recording health never touches the snapshot, and replacing the
snapshot drops the health of the keys that left and keeps that of all others.
-/

namespace MeshNode

/-- The outcome of a probe; the latency is in nanoseconds. The time of day of the probe is left out:
it is shown to readers of the status and decides nothing. -/
structure Health where
  reachable : Bool
  latency : Option Nat
  deriving DecidableEq, Repr

namespace Health

/-- The peer answered after some nanoseconds. -/
def answered (latency : Nat) : Health := ⟨true, some latency⟩

/-- The peer did not answer. -/
def silent : Health := ⟨false, none⟩

/-- A latency in milliseconds; what is less than a microsecond is dropped first. -/
def milliseconds (nanoseconds : Nat) : String :=
  Decimal.shortest (Decimal.toPrecision (nanoseconds / 1000)) 1000

/-- The latency as a JSON number of milliseconds. -/
def latencyJson (latency : Option Nat) : Json :=
  Json.nullable (fun nanoseconds => .number (milliseconds nanoseconds)) latency

end Health

/-- One device in the snapshot. -/
structure CacheEntry where
  record : PeerRecord
  /-- Absent while the peer is unreachable. -/
  method : Option PeeringMethod
  /-- The endpoint that the tunnel was pointed at. -/
  endpoint : Option SocketAddress
  allowed : List Network
  deriving DecidableEq, Repr

/-- An address to probe and the key whose health it decides. -/
structure ProbeTarget where
  publicKey : PublicKey
  address : Address
  deriving DecidableEq, Repr

/-- One device as status readers see it. -/
structure PeerView where
  id : Uuid
  hostname : String
  publicKey : PublicKey
  method : Option PeeringMethod
  health : Option Health
  endpoint : Option SocketAddress
  allowed : List Network
  relay : Bool
  deriving DecidableEq, Repr

/-- The snapshot and the health table. -/
structure DeviceCache where
  snapshot : Table Uuid CacheEntry := Table.empty
  health : Table PublicKey Health := Table.empty
  deriving DecidableEq, Repr

namespace DeviceCache

/-- Whether a key belongs to an entry. -/
def holdsKey (entries : Table Uuid CacheEntry) (key : PublicKey) : Bool :=
  entries.values.any fun entry => entry.record.publicKey == key

/-- Drop the health of every key outside the given entries. -/
def pruneHealth (entries : Table Uuid CacheEntry) (health : Table PublicKey Health) :
    Table PublicKey Health :=
  health.filter fun key _ => holdsKey entries key

/-- Replace the snapshot; keys that left lose their health. -/
def replace (entries : Table Uuid CacheEntry) (cache : DeviceCache) : DeviceCache :=
  ⟨entries, pruneHealth entries cache.health⟩

/-- Put results for the keys of some entries into a health table. -/
def insertHealth (entries : Table Uuid CacheEntry) (results : Table PublicKey Health)
    (health : Table PublicKey Health) : Table PublicKey Health :=
  results.entries.foldl (fun health (key, result) =>
    if holdsKey entries key then health.insert key result else health) health

/-- Record probe results; a key outside the snapshot is ignored and the last result of a
key counts. -/
def recordHealth (results : Table PublicKey Health) (cache : DeviceCache) : DeviceCache :=
  { cache with health := insertHealth cache.snapshot results cache.health }

/-- Whether one of the records is a relay that did not fail its last probe. A relay that
was never probed counts as healthy. -/
def relayHealthyAmong (cache : DeviceCache) (records : List PeerRecord) : Bool :=
  records.any fun record =>
    record.relay && ((cache.health.get? record.publicKey).map Health.reachable).getD true

/-- The records of the snapshot. -/
def records (cache : DeviceCache) : List PeerRecord := cache.snapshot.values.map CacheEntry.record

/-- Whether the snapshot holds a healthy relay. -/
def healthyRelay (cache : DeviceCache) : Bool := cache.relayHealthyAmong cache.records

/-- The view of one entry. -/
def viewOf (cache : DeviceCache) (entry : CacheEntry) : PeerView :=
  { id := entry.record.id
    hostname := entry.record.hostname
    publicKey := entry.record.publicKey
    method := entry.method
    health := cache.health.get? entry.record.publicKey
    endpoint := entry.endpoint
    allowed := entry.allowed
    relay := entry.record.relay }

/-- Whether one view is listed before or beside another: by hostname, then by key, then by
identifier. -/
def viewOrder (a b : PeerView) : Bool :=
  if a.hostname = b.hostname then
    if a.publicKey.rank = b.publicKey.rank then a.id.rank ≤ b.id.rank
    else a.publicKey.rank ≤ b.publicKey.rank
  else decide (a.hostname < b.hostname)

/-- Every device, in the order of the list. -/
def list (cache : DeviceCache) : List PeerView :=
  (cache.snapshot.values.map cache.viewOf).mergeSort viewOrder

/-- The tunnel address of a record in a family. -/
def tunnelAddress? (family : Family) (record : PeerRecord) : Option Address :=
  match family with
  | .v4 => record.tunnelV4.map .v4
  | .v6 => record.tunnelV6.map .v6

/-- Whether one target is probed before or beside another: by address, then by key. -/
def targetOrder (a b : ProbeTarget) : Bool :=
  if a.address.rank = b.address.rank then a.publicKey.rank ≤ b.publicKey.rank
  else a.address.rank ≤ b.address.rank

/-- The devices with a tunnel address in a family, in the order of the addresses. -/
def probeTargets (cache : DeviceCache) (family : Family) : List ProbeTarget :=
  (cache.snapshot.values.filterMap fun entry =>
    (tunnelAddress? family entry.record).map fun address =>
      ⟨entry.record.publicKey, address⟩).mergeSort targetOrder

end DeviceCache

namespace PeerView

/-- The wire form of a view. -/
def toJson (view : PeerView) : Json :=
  .object
    [("id", .string view.id.print),
      ("hostname", .string view.hostname),
      ("public_key", .string view.publicKey.toBase64),
      ("method", Json.nullable (fun method => .string method.name) view.method),
      ("healthy", Json.nullable (fun health => .bool health.reachable) view.health),
      ("latency_ms", Health.latencyJson (view.health.bind Health.latency)),
      ("endpoint", Json.nullable (fun socket => .string socket.print) view.endpoint),
      ("allowed_ips", PeerRecord.networksJson view.allowed),
      ("relay", .bool view.relay)]

end PeerView

end MeshNode
