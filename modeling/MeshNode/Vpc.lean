import MeshNode.Json
import MeshNode.Network
import MeshNode.Uuid

/-!
# The private network

What the coordinator says about the network that a node joins: who owns it and which prefix of
either family its tunnel addresses come from. Together the prefixes are what a relay carries for
everybody.
-/

namespace MeshNode

/-- The network that a node joins. -/
structure Vpc where
  id : Uuid
  organization : Uuid
  tunnelV4 : Option Network := none
  tunnelV6 : Option Network := none
  deriving DecidableEq, Repr

namespace Vpc

/-- The prefixes that a relay carries, IPv4 first. -/
def supernet (vpc : Vpc) : List Network := vpc.tunnelV4.toList ++ vpc.tunnelV6.toList

/-- Read the description of a network. -/
def ofJson? (value : Json) : Option Vpc := do
  match ← value.fields? ["id", "organization_id", "ipv4_cidr", "ipv6_cidr"] with
  | [some id, some organization, tunnelV4, tunnelV6] =>
    let id ← id.parsed? Uuid.parse?
    let organization ← organization.parsed? Uuid.parse?
    let tunnelV4 ← Json.orAbsent (Json.parsed? Network.parse?) tunnelV4
    let tunnelV6 ← Json.orAbsent (Json.parsed? Network.parse?) tunnelV6
    return { id, organization, tunnelV4, tunnelV6 }
  | _ => none

/-- The wire form of the description. -/
def toJson (vpc : Vpc) : Json :=
  let network := Json.nullable fun network : Network => .string network.print
  .object
    [("id", .string vpc.id.print), ("organization_id", .string vpc.organization.print),
      ("ipv4_cidr", network vpc.tunnelV4), ("ipv6_cidr", network vpc.tunnelV6)]

end Vpc

end MeshNode
