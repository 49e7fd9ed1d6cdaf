import MeshNode.Discovery
import MeshNode.Peer

/-!
# Registration

What a node publishes about itself, so that the others find it, and what it takes from the record
that the coordinator answers with. The address on the node's own network is always published. The
one that other networks see is published together with the reflector that reported it, and so
only where a reflector did.
-/

namespace MeshNode

/-- What a node publishes about itself. -/
structure Registration where
  vpc : Uuid
  publicKey : PublicKey
  endpoints : List Endpoint
  advertised : List Network := []
  relay : Bool := false
  symmetricNat : Bool := false
  hostname : String
  deriving DecidableEq, Repr

namespace Registration

/-- The endpoints that a discovery gives to publish. -/
def advertisedEndpoints (discovery : Discovery) : List Endpoint :=
  ⟨.localNetwork, discovery.own.print⟩ ::
    (discovery.reflector.map fun reflector =>
      (⟨.reflector reflector, discovery.reflexive.print⟩ : Endpoint)).toList

/-- The prefixes of the tunnel addresses that a record assigns, IPv4 first. -/
def interfaceAddresses (record : PeerRecord) : List Network :=
  (record.tunnelV4.map fun bits => Network.host (.v4 bits)).toList ++
    (record.tunnelV6.map fun bits => Network.host (.v6 bits)).toList

/-- The wire form of a registration. -/
def toJson (registration : Registration) : Json :=
  .object
    [("vpc_id", .string registration.vpc.print),
      ("public_key", .string registration.publicKey.toBase64),
      ("endpoints", .array (registration.endpoints.map Endpoint.toJson)),
      ("advertise_cidrs", PeerRecord.networksJson registration.advertised),
      ("relay", .bool registration.relay),
      ("symmetric_nat", .bool registration.symmetricNat),
      ("hostname", .string registration.hostname)]

end Registration

end MeshNode
