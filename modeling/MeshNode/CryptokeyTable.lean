import MeshNode.Key
import MeshNode.Network
import MeshNode.Table

/-!
# The cryptokey table

Which peer's tunnel carries a packet: every prefix belongs to one peer, and of the prefixes
that contain the destination the longest decides. Prefixes are truncated when they enter, so
two prefixes of one length never contain the same address and the answer does not depend on
the order of the table. The order only shows where a peer's prefixes are listed: a prefix that
changes its owner keeps its place.
-/

namespace MeshNode

/-- Prefixes with their owners. -/
structure CryptokeyTable where
  owners : Table Network PublicKey := Table.empty
  deriving DecidableEq, Repr

namespace CryptokeyTable

/-- Give a prefix to a peer. -/
def add (network : Network) (peer : PublicKey) (table : CryptokeyTable) : CryptokeyTable :=
  ⟨table.owners.insert network.truncate peer⟩

/-- Take every prefix from a peer. -/
def remove (peer : PublicKey) (table : CryptokeyTable) : CryptokeyTable :=
  ⟨table.owners.filter fun _ owner => owner ≠ peer⟩

/-- Give a peer exactly these prefixes. -/
def assign (peer : PublicKey) (networks : List Network) (table : CryptokeyTable) : CryptokeyTable :=
  networks.foldl (fun table network => table.add network peer) (table.remove peer)

/-- Keep the better of two matches: the one with the longer prefix, and the later of equals. -/
def better (best : Option (Network × PublicKey)) (entry : Network × PublicKey) :
    Option (Network × PublicKey) :=
  match best with
  | some (network, peer) =>
    if entry.1.length < network.length then some (network, peer) else some entry
  | none => some entry

/-- The peer that carries packets to an address. -/
def route? (table : CryptokeyTable) (address : Address) : Option PublicKey :=
  ((table.owners.entries.filter fun entry => entry.1.contains address).foldl better none).map
    Prod.snd

/-- The prefixes of a peer in the order of the table. -/
def networksOf (table : CryptokeyTable) (peer : PublicKey) : List Network :=
  (table.owners.entries.filter fun entry => entry.2 = peer).map Prod.fst

/-- The number of prefixes. -/
def size (table : CryptokeyTable) : Nat := table.owners.size

end CryptokeyTable

end MeshNode
