import MeshNode.Peer

/-!
# The local node

What a node knows about itself when it chooses paths. Every change advances the
generation, also one that changes nothing, so that equal generations mean equal
states as long as the changes leave the counter alone and it does not wrap.
-/

namespace MeshNode

/-- The local node as path selection sees it. -/
structure LocalNode where
  /-- Known once the coordinator has registered the device. -/
  id : Option Uuid := none
  publicKey : PublicKey
  /-- The address other networks see this node at. -/
  reflexive : SocketAddress
  relay : Bool := false
  symmetricNat : Bool := false
  /-- Ordinary peers are never dialled directly. -/
  relayOnly : Bool := false
  /-- The organization's prefixes, routed through the relay. -/
  relaySupernet : List Network := []
  /-- Counts the changes in 64 bits. -/
  generation : UInt64 := 0
  deriving DecidableEq, Repr

namespace LocalNode

/-- Whether a listed record is this node, by identifier or by key. -/
def isSelf (node : LocalNode) (record : PeerRecord) : Bool :=
  node.id == some record.id || record.publicKey == node.publicKey

/-- Change the node and advance its generation, from where the change leaves it. -/
def update (change : LocalNode → LocalNode) (node : LocalNode) : LocalNode :=
  let changed := change node
  { changed with generation := changed.generation + 1 }

end LocalNode

end MeshNode
