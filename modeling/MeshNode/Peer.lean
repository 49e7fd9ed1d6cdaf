import MeshNode.Key
import MeshNode.Network
import MeshNode.Uuid
import MeshNode.Json

/-!
# Peer records

A device as the coordinator lists it: its identity, its key, the endpoints it can
be dialled at, the prefixes it may use and carry, and how it is connected. The
address of an endpoint stays the text that was published, because a device that
is still registering publishes unfinished ones.

A record is decoded from JSON and encoded back with every field. Only the identifier,
the key and the organization are required, and only the two tunnel addresses may be
`null`.
-/

namespace MeshNode

/-- How an endpoint was learned: it is the device's own address on its network, or
a reflector reported it. -/
inductive EndpointSource where
  | localNetwork
  | reflector (server : String)
  deriving DecidableEq, Repr

namespace EndpointSource

/-- The wire form. -/
def print : EndpointSource → String
  | .localNetwork => "local"
  | .reflector server => s!"stun:{server}"

/-- Read the wire form; the bare word `stun` names no reflector. -/
def ofText? (s : String) : Option EndpointSource :=
  if s = "local" then some .localNetwork
  else match Text.after? "stun:" s with
    | some server => some (.reflector server)
    | none => if s = "stun" then some (.reflector "") else none

/-- The refusal of an unknown source. -/
def unknownMessage (s : String) : String := s!"unknown endpoint source: {s}"

/-- Whether the endpoint lies on the device's own network. -/
def isLocal : EndpointSource → Bool
  | .localNetwork => true
  | .reflector _ => false

end EndpointSource

/-- A published endpoint. -/
structure Endpoint where
  source : EndpointSource
  address : String
  deriving DecidableEq, Repr

namespace Endpoint

/-- The address to dial, if the published text is finished. -/
def socket? (endpoint : Endpoint) : Option SocketAddress :=
  SocketAddress.parseEndpoint? endpoint.address

/-- Read an endpoint: source and address are both required. -/
def ofJson? (value : Json) : Option Endpoint := do
  match ← value.fields? ["source", "address"] with
  | [some source, some address] =>
    return ⟨← source.parsed? EndpointSource.ofText?, ← address.text?⟩
  | _ => none

/-- The wire form of an endpoint. -/
def toJson (endpoint : Endpoint) : Json :=
  .object [("source", .string endpoint.source.print), ("address", .string endpoint.address)]

end Endpoint

/-- A device of the organization. -/
structure PeerRecord where
  id : Uuid
  publicKey : PublicKey
  endpoints : List Endpoint := []
  allowed : List Network := []
  /-- Prefixes of the networks behind the device. -/
  advertised : List Network := []
  tunnelV4 : Option (BitVec 32) := none
  tunnelV6 : Option (BitVec 128) := none
  hostname : String := ""
  relay : Bool := false
  symmetricNat : Bool := false
  organization : Uuid
  deriving DecidableEq, Repr

namespace PeerRecord

/-- The first endpoint on the device's own network. -/
def localEndpoint? (record : PeerRecord) : Option Endpoint :=
  record.endpoints.find? (·.source.isLocal)

/-- The first endpoint that a reflector reported. -/
def reflexiveEndpoint? (record : PeerRecord) : Option Endpoint :=
  record.endpoints.find? (!·.source.isLocal)

/-- The names of a record's fields on the wire. -/
def fieldNames : List String :=
  ["id", "public_key", "endpoints", "allowed_ips", "advertise_cidrs", "tunnel_ipv4", "tunnel_ipv6",
    "hostname", "relay", "symmetric_nat", "organization_id"]

/-- Read a list of prefixes. -/
def networks? : Json → Option (List Network) := Json.listOf? (Json.parsed? Network.parse?)

/-- Read a record. -/
def ofJson? (value : Json) : Option PeerRecord := do
  match ← value.fields? fieldNames with
  | [some id, some publicKey, endpoints, allowed, advertised, tunnelV4, tunnelV6, hostname, relay,
      symmetricNat, some organization] =>
    let id ← id.parsed? Uuid.parse?
    let publicKey ← publicKey.parsed? fun s => (PublicKey.ofBase64 s).toOption
    let endpoints ← Json.orDefault [] (Json.listOf? Endpoint.ofJson?) endpoints
    let allowed ← Json.orDefault [] networks? allowed
    let advertised ← Json.orDefault [] networks? advertised
    let tunnelV4 ← Json.orAbsent (Json.parsed? Address.parseV4?) tunnelV4
    let tunnelV6 ← Json.orAbsent (Json.parsed? Address.parseV6?) tunnelV6
    let hostname ← Json.orDefault "" Json.text? hostname
    let relay ← Json.orDefault false Json.bool? relay
    let symmetricNat ← Json.orDefault false Json.bool? symmetricNat
    let organization ← organization.parsed? Uuid.parse?
    return { id, publicKey, endpoints, allowed, advertised, tunnelV4, tunnelV6, hostname, relay,
             symmetricNat, organization }
  | _ => none

/-- The texts of prefixes. -/
def networksJson (networks : List Network) : Json := Json.ofTexts (networks.map Network.print)

/-- The wire form of a record, with every field. -/
def toJson (record : PeerRecord) : Json :=
  .object
    [("id", .string record.id.print),
      ("public_key", .string record.publicKey.toBase64),
      ("endpoints", .array (record.endpoints.map Endpoint.toJson)),
      ("allowed_ips", networksJson record.allowed),
      ("advertise_cidrs", networksJson record.advertised),
      ("tunnel_ipv4", Json.nullable (fun bits => .string (Address.v4 bits).print) record.tunnelV4),
      ("tunnel_ipv6", Json.nullable (fun bits => .string (Address.v6 bits).print) record.tunnelV6),
      ("hostname", .string record.hostname),
      ("relay", .bool record.relay),
      ("symmetric_nat", .bool record.symmetricNat),
      ("organization_id", .string record.organization.print)]

end PeerRecord

end MeshNode
