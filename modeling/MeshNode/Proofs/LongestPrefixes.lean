import Mathlib.Data.Set.Card
import MeshNode.Proofs.CryptokeyTables

/-!
# The cryptokey table as a map

The meaning of a cryptokey table is a map from prefixes to the peers that own them. Adding sets
the owner of a truncated prefix, removing deletes whatever maps to a peer, and assigning is a
removal with additions after it. The table stands for this map after every sequence of operations:
each of them moves the table as it moves the map, and a table lists truncated prefixes only.

The main statement reads everything that can be asked of a table off the map: whose prefix is whose,
what a peer owns, how many prefixes there are, and where a packet goes. Two owned prefixes of one
length never contain the same address. So the longest one is unique, and the order in which a table
lists its entries does not show in the answer.
-/

namespace MeshNode

/-- One operation on a cryptokey table. -/
inductive CryptokeyOperation where
  | add (network : Network) (peer : PublicKey)
  | assign (peer : PublicKey) (networks : List Network)
  | remove (peer : PublicKey)

/-- The owner of each prefix that has one. -/
abbrev NetworkOwners := Network → Option PublicKey

namespace NetworkOwners

/-- Set the owner of a truncated prefix. -/
def add (network : Network) (peer : PublicKey) (owners : NetworkOwners) : NetworkOwners :=
  Function.update owners network.truncate (some peer)

/-- Delete every prefix that maps to a peer. -/
def remove (peer : PublicKey) (owners : NetworkOwners) : NetworkOwners :=
  fun network => if owners network = some peer then none else owners network

/-- Remove a peer, then add prefixes for it. -/
def assign (peer : PublicKey) (networks : List Network) (owners : NetworkOwners) : NetworkOwners :=
  networks.foldl (fun owners network => add network peer owners) (owners.remove peer)

/-- One operation on the map. -/
def after (owners : NetworkOwners) : CryptokeyOperation → NetworkOwners
  | .add network peer => owners.add network peer
  | .assign peer networks => owners.assign peer networks
  | .remove peer => owners.remove peer

/-- The map that operations leave where no prefix had an owner. -/
def afterAll (operations : List CryptokeyOperation) : NetworkOwners :=
  operations.foldl after fun _ => none

/-- A prefix is owned and contains an address, and no longer one is and does. -/
structure IsLongest (owners : NetworkOwners) (address : Address) (network : Network) : Prop where
  owned : (owners network).isSome = true
  contains : network.contains address = true
  longest : ∀ other, (owners other).isSome = true → other.contains address = true →
    other.length ≤ network.length

end NetworkOwners

namespace CryptokeyTable

/-- One operation on the table. -/
def after (table : CryptokeyTable) : CryptokeyOperation → CryptokeyTable
  | .add network peer => table.add network peer
  | .assign peer networks => table.assign peer networks
  | .remove peer => table.remove peer

/-- The table that operations leave of an empty one. -/
def afterAll (operations : List CryptokeyOperation) : CryptokeyTable := operations.foldl after {}

/-- A table of truncated prefixes stands for the map of their owners. -/
structure Represents (table : CryptokeyTable) (owners : NetworkOwners) : Prop where
  truncated : table.Truncated
  owner : ∀ network, table.owners.get? network = owners network

/-! ## Each operation, and all of them -/

theorem Truncated.add {table : CryptokeyTable} (truncated : table.Truncated) (given : Network)
    (peer : PublicKey) : (table.add given peer).Truncated := by
  intro network owner found
  rw [owner_add] at found
  split at found
  · rename_i same
    rw [same, Network.truncate_truncate]
  · exact truncated network owner found

namespace Represents

variable {table : CryptokeyTable} {owners : NetworkOwners}

theorem empty : Represents {} fun _ => none := ⟨truncated_empty, fun _ => rfl⟩

theorem add (represents : table.Represents owners) (given : Network) (peer : PublicKey) :
    (table.add given peer).Represents (owners.add given peer) where
  truncated := represents.truncated.add given peer
  owner network := by
    rw [owner_add, represents.owner, NetworkOwners.add, Function.update_apply]

theorem remove (represents : table.Represents owners) (peer : PublicKey) :
    (table.remove peer).Represents (owners.remove peer) where
  truncated := represents.truncated.remove peer
  owner network := by
    apply Option.ext
    intro owner
    rw [owner_remove_iff, represents.owner, NetworkOwners.remove]
    by_cases own : owners network = some peer
    · simp [own, eq_comm]
    · rw [if_neg own]
      refine and_iff_left_of_imp fun found same => own ?_
      rw [found, same]

theorem foldl_add (represents : table.Represents owners) (peer : PublicKey)
    (networks : List Network) :
    (networks.foldl (fun table network => table.add network peer) table).Represents
      (networks.foldl (fun owners network => owners.add network peer) owners) := by
  induction networks generalizing table owners with
  | nil => exact represents
  | cons network rest inductionHypothesis => exact inductionHypothesis (represents.add network peer)

/-- An operation does to the table what it does to the map. -/
theorem after (represents : table.Represents owners) (operation : CryptokeyOperation) :
    (table.after operation).Represents (owners.after operation) := by
  cases operation with
  | add network peer => exact represents.add network peer
  | assign peer networks => exact (represents.remove peer).foldl_add peer networks
  | remove peer => exact represents.remove peer

theorem foldl_after (represents : table.Represents owners) (operations : List CryptokeyOperation) :
    (operations.foldl CryptokeyTable.after table).Represents
      (operations.foldl NetworkOwners.after owners) := by
  induction operations generalizing table owners with
  | nil => exact represents
  | cons operation rest inductionHypothesis =>
    exact inductionHypothesis (represents.after operation)

/-! ## What a table says about its map -/

section Answers

variable (represents : table.Represents owners)

include represents

theorem mem_keys_iff (network : Network) :
    network ∈ table.owners.keys ↔ (owners network).isSome = true := by
  rw [Table.mem_keys_iff, represents.owner, Option.isSome_iff_exists]

theorem truncate_of_mem_keys (network : Network) (member : network ∈ table.owners.keys) :
    network.truncate = network := by
  obtain ⟨owner, found⟩ := (Table.mem_keys_iff _ _).mp member
  exact represents.truncated network owner found

/-- The prefixes of a peer are those that map to it. -/
theorem mem_networksOf_iff (peer : PublicKey) (network : Network) :
    network ∈ table.networksOf peer ↔ owners network = some peer := by
  rw [← represents.owner, Table.get?_eq_some_iff]
  simp [networksOf]

/-- The table counts the prefixes that have an owner. -/
theorem encard_owned : {network | (owners network).isSome = true}.encard = table.size := by
  have apart : table.owners.keys.Nodup := table.owners.nodup
  have owned : {network | (owners network).isSome = true} = table.owners.keys.toFinset := by
    ext network
    rw [List.coe_toFinset]
    exact (represents.mem_keys_iff network).symm
  rw [owned, Set.encard_coe_eq_coe_finsetCard, List.toFinset_card_of_nodup apart, Table.keys,
    List.length_map, size, Table.size]

/-- Owned prefixes of one length that contain one address are the same. -/
theorem eq_of_contains (address : Address) (left right : Network)
    (leftOwned : (owners left).isSome = true) (rightOwned : (owners right).isSome = true)
    (leftContains : left.contains address = true) (rightContains : right.contains address = true)
    (length : left.length = right.length) : left = right := by
  rw [← represents.mem_keys_iff] at leftOwned rightOwned
  exact Network.eq_of_contains address (represents.truncate_of_mem_keys left leftOwned)
    (represents.truncate_of_mem_keys right rightOwned) leftContains rightContains length

/-- Packets go to the owner of the longest prefix that contains their destination. -/
theorem route?_iff (address : Address) (peer : PublicKey) :
    table.route? address = some peer ↔
      ∃ network, owners.IsLongest address network ∧ owners network = some peer := by
  rw [route?_eq_some_iff table represents.truncated]
  simp only [represents.owner]
  constructor
  · rintro ⟨network, found, contains, longest⟩
    refine ⟨network, ⟨by rw [found]; rfl, contains, fun other owned => ?_⟩, found⟩
    obtain ⟨rival, rivals⟩ := Option.isSome_iff_exists.mp owned
    exact longest other rival rivals
  · rintro ⟨network, longest, found⟩
    refine ⟨network, found, longest.contains, fun other rival rivals => ?_⟩
    exact longest.longest other (by rw [rivals]; rfl)

/-- Packets go nowhere exactly if no owned prefix contains their destination. -/
theorem route?_eq_none_iff (address : Address) :
    table.route? address = none ↔
      ∀ network, (owners network).isSome = true → network.contains address = false := by
  constructor
  · intro nowhere network owned
    obtain ⟨owner, found⟩ :=
      (Table.mem_keys_iff _ _).mp ((represents.mem_keys_iff network).mpr owned)
    rw [Table.get?_eq_some_iff] at found
    rw [route?, Option.map_eq_none_iff] at nowhere
    by_contra contains
    have matching : (network, owner) ∈
        table.owners.entries.filter fun entry => entry.1.contains address :=
      List.mem_filter.mpr ⟨found, Bool.of_not_eq_false contains⟩
    have best := foldl_better_isSome _ none (Or.inr (List.ne_nil_of_mem matching))
    rw [nowhere] at best
    cases best
  · intro outside
    cases carried : table.route? address with
    | none => rfl
    | some peer =>
      obtain ⟨network, longest, _⟩ := (represents.route?_iff address peer).mp carried
      cases (outside network longest.owned).symm.trans longest.contains

/-- A table with the same entries in another order stands for the same map. -/
theorem of_perm {reordered : CryptokeyTable}
    (same : reordered.owners.entries.Perm table.owners.entries) : reordered.Represents owners := by
  have lookup : ∀ network, reordered.owners.get? network = table.owners.get? network := by
    intro network
    apply Option.ext
    intro owner
    rw [Table.get?_eq_some_iff, Table.get?_eq_some_iff, same.mem_iff]
  constructor
  · intro network owner found
    rw [lookup] at found
    exact represents.truncated network owner found
  · exact fun network => (lookup network).trans (represents.owner network)

end Answers

end Represents

theorem afterAll_represents (operations : List CryptokeyOperation) :
    (afterAll operations).Represents (NetworkOwners.afterAll operations) :=
  Represents.empty.foldl_after operations

/-- After any operations on an empty table: its prefixes are truncated and distinct, and it is the
map that the operations make. A peer has the prefixes that map to it, and the table's size is the
number of prefixes that map to any peer. Packets to an address go to the peer of the longest prefix
that contains the address and nowhere if there is none; there is one such prefix of each length at
most, and the order of the table does not matter. -/
theorem longest_prefix_decides (operations : List CryptokeyOperation) :
    let table := afterAll operations
    let owners := NetworkOwners.afterAll operations
    (∀ network ∈ table.owners.keys, network.truncate = network) ∧ table.owners.keys.Nodup ∧
      (∀ network, table.owners.get? network = owners network) ∧
      (∀ peer, (table.networksOf peer).Nodup ∧
        ∀ network, network ∈ table.networksOf peer ↔ owners network = some peer) ∧
      {network | (owners network).isSome = true}.encard = table.size ∧
      ∀ address,
        (∀ peer, table.route? address = some peer ↔
          ∃ network, owners.IsLongest address network ∧ owners network = some peer) ∧
        (table.route? address = none ↔
          ∀ network, (owners network).isSome = true → network.contains address = false) ∧
        (∀ left right, (owners left).isSome = true → (owners right).isSome = true →
          left.contains address = true → right.contains address = true →
          left.length = right.length → left = right) ∧
        ∀ reordered : CryptokeyTable, reordered.owners.entries.Perm table.owners.entries →
          reordered.route? address = table.route? address := by
  intro table owners
  have represents : table.Represents owners := afterAll_represents operations
  refine ⟨represents.truncate_of_mem_keys, table.owners.nodup, represents.owner, fun peer => ?_,
    represents.encard_owned, fun address => ?_⟩
  · have kept : (table.networksOf peer).Sublist table.owners.keys :=
      List.filter_sublist.map Prod.fst
    exact ⟨table.owners.nodup.sublist kept, represents.mem_networksOf_iff peer⟩
  · refine ⟨represents.route?_iff address, represents.route?_eq_none_iff address,
      represents.eq_of_contains address, fun reordered same => ?_⟩
    apply Option.ext
    intro peer
    rw [(represents.of_perm same).route?_iff, represents.route?_iff]

end CryptokeyTable

end MeshNode
