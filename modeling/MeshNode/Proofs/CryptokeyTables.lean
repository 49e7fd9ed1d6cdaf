import MeshNode.CryptokeyTable
import MeshNode.Proofs.Prefixes
import MeshNode.Proofs.Tables

/-!
# Owners of prefixes

A cryptokey table is decided by the owner of each prefix. Giving a prefix away sets its
owner, whoever had it; taking every prefix from a peer leaves the other owners alone;
assigning does one after the other, so that afterwards the peer owns exactly what it was
assigned, and every other peer what it owned of the rest.

The prefixes of a table are truncated. Of two truncated prefixes of one length at most
one contains a given address, and so the longest match is decided by the owners alone,
in whatever order the table lists them.
-/

namespace MeshNode

namespace Network

/-- The address of a truncated prefix has no host bits. -/
theorem clearHost_of_truncated (network : Network) (truncated : network.truncate = network) :
    clearHost network.address.family.width network.length network.address.toNat =
      network.address.toNat := by
  rw [← toNat_truncate, truncated]

/-- An address is its family and its number. -/
theorem address_eq_of_toNat {left right : Address} (family : left.family = right.family)
    (number : left.toNat = right.toNat) : left = right := by
  cases left <;> cases right <;> cases family
  · exact congrArg Address.v4 (BitVec.eq_of_toNat_eq number)
  · exact congrArg Address.v6 (BitVec.eq_of_toNat_eq number)

/-- Truncated prefixes of one length that contain one address are the same. -/
theorem eq_of_contains {left right : Network} (address : Address)
    (leftTruncated : left.truncate = left) (rightTruncated : right.truncate = right)
    (leftContains : left.contains address = true) (rightContains : right.contains address = true)
    (length : left.length = right.length) : left = right := by
  simp only [contains, Bool.and_eq_true, beq_iff_eq] at leftContains rightContains
  obtain ⟨leftFamily, leftBits⟩ := leftContains
  obtain ⟨rightFamily, rightBits⟩ := rightContains
  have family : left.address.family = right.address.family := leftFamily.trans rightFamily.symm
  have number : left.address.toNat = right.address.toNat := by
    rw [← clearHost_of_truncated left leftTruncated, ← clearHost_of_truncated right rightTruncated,
      clearHost, clearHost, leftBits, rightBits, family, length]
  have address := address_eq_of_toNat family number
  cases left
  cases right
  cases address
  cases length
  rfl

end Network

namespace CryptokeyTable

/-! ## Owners -/

section Owners

variable (table : CryptokeyTable) (peer owner : PublicKey) (network : Network)

theorem owner_add (given : Network) :
    (table.add given peer).owners.get? network =
      if network = given.truncate then some peer else table.owners.get? network :=
  Table.get?_insert _ _ _ _

theorem owner_remove_iff :
    (table.remove peer).owners.get? network = some owner ↔
      table.owners.get? network = some owner ∧ owner ≠ peer := by
  simp [remove, Table.get?_filter_eq_some_iff]

/-- Prefixes that are given to a peer one after another are all its own in the end. -/
theorem owner_foldl_add (networks : List Network) :
    (networks.foldl (fun table network => table.add network peer) table).owners.get? network =
      if network ∈ networks.map Network.truncate then some peer
      else table.owners.get? network := by
  induction networks generalizing table with
  | nil => simp
  | cons first rest inductionHypothesis =>
    rw [List.foldl_cons, inductionHypothesis, owner_add]
    simp only [List.map_cons, List.mem_cons]
    by_cases later : network ∈ rest.map Network.truncate
    · rw [if_pos later, if_pos (Or.inr later)]
    · by_cases same : network = first.truncate
      · rw [if_neg later, if_pos same, if_pos (Or.inl same)]
      · rw [if_neg later, if_neg same, if_neg (not_or.mpr ⟨same, later⟩)]

/-- After an assignment a peer owns what it was assigned, and any other peer what it owned of the
rest. -/
theorem owner_assign_iff (networks : List Network) :
    (table.assign peer networks).owners.get? network = some owner ↔
      (owner = peer ∧ network ∈ networks.map Network.truncate) ∨
        (table.owners.get? network = some owner ∧ owner ≠ peer ∧
          network ∉ networks.map Network.truncate) := by
  rw [assign, owner_foldl_add]
  by_cases assigned : network ∈ networks.map Network.truncate
  · simp [assigned, eq_comm]
  · simp [assigned, owner_remove_iff]

end Owners

/-! ## Truncated prefixes -/

/-- Every prefix of the table is truncated. -/
def Truncated (table : CryptokeyTable) : Prop :=
  ∀ network owner, table.owners.get? network = some owner → network.truncate = network

theorem truncated_empty : Truncated {} := by
  intro network owner found
  cases found

theorem Truncated.assign {table : CryptokeyTable} (truncated : table.Truncated) (peer : PublicKey)
    (networks : List Network) : (table.assign peer networks).Truncated := by
  intro network owner found
  rcases (owner_assign_iff table peer owner network networks).mp found with
    ⟨_, assigned⟩ | ⟨before, _⟩
  · obtain ⟨given, _, rfl⟩ := List.mem_map.mp assigned
    exact given.truncate_truncate
  · exact truncated network owner before

theorem Truncated.remove {table : CryptokeyTable} (truncated : table.Truncated)
    (peer : PublicKey) : (table.remove peer).Truncated := by
  intro network owner found
  exact truncated network owner ((owner_remove_iff table peer owner network).mp found).1

/-! ## The longest match -/

/-- The better of two matches is one of them, and no shorter than either. -/
theorem better_cases (best : Option (Network × PublicKey)) (entry : Network × PublicKey) :
    ∃ winner, better best entry = some winner ∧ (best = some winner ∨ winner = entry) ∧
      entry.1.length ≤ winner.1.length ∧
      ∀ held, best = some held → held.1.length ≤ winner.1.length := by
  cases best with
  | none =>
    exact ⟨entry, rfl, Or.inr rfl, Nat.le_refl _, fun held impossible => by cases impossible⟩
  | some held =>
    by_cases shorter : entry.1.length < held.1.length
    · refine ⟨held, if_pos shorter, Or.inl rfl, Nat.le_of_lt shorter, ?_⟩
      rintro other ⟨⟩
      exact Nat.le_refl _
    · refine ⟨entry, if_neg shorter, Or.inr rfl, Nat.le_refl _, ?_⟩
      rintro other ⟨⟩
      exact Nat.le_of_not_lt shorter

/-- The best of the matches is one of them, and no shorter than any. -/
theorem foldl_better_some (entries : List (Network × PublicKey))
    (best : Option (Network × PublicKey)) (winner : Network × PublicKey)
    (won : entries.foldl better best = some winner) :
    (best = some winner ∨ winner ∈ entries) ∧
      ∀ entry, best = some entry ∨ entry ∈ entries → entry.1.length ≤ winner.1.length := by
  induction entries generalizing best with
  | nil =>
    refine ⟨Or.inl won, ?_⟩
    rintro entry (held | impossible)
    · rw [List.foldl_nil, held] at won
      exact Option.some.inj won ▸ Nat.le_refl _
    · cases impossible
  | cons first rest inductionHypothesis =>
    obtain ⟨leader, leads, origin, beatsFirst, beatsBest⟩ := better_cases best first
    obtain ⟨member, longest⟩ := inductionHypothesis (better best first) won
    have beatsLeader : leader.1.length ≤ winner.1.length := longest leader (Or.inl leads)
    constructor
    · rcases member with same | later
      · obtain rfl := Option.some.inj (leads.symm.trans same)
        rcases origin with held | rfl
        · exact Or.inl held
        · exact Or.inr List.mem_cons_self
      · exact Or.inr (List.mem_cons_of_mem _ later)
    · rintro entry (held | listed)
      · exact Nat.le_trans (beatsBest entry held) beatsLeader
      · rcases List.mem_cons.mp listed with rfl | later
        · exact Nat.le_trans beatsFirst beatsLeader
        · exact longest entry (Or.inr later)

/-- Among any matches one is the best. -/
theorem foldl_better_isSome (entries : List (Network × PublicKey))
    (best : Option (Network × PublicKey)) (some : best.isSome = true ∨ entries ≠ []) :
    (entries.foldl better best).isSome = true := by
  induction entries generalizing best with
  | nil => exact some.resolve_right fun impossible => impossible rfl
  | cons first rest inductionHypothesis =>
    obtain ⟨leader, leads, _⟩ := better_cases best first
    exact inductionHypothesis (better best first) (Or.inl (by rw [leads]; rfl))

/-- Packets to an address go to the owner of the longest prefix that contains it. -/
theorem route?_eq_some_iff (table : CryptokeyTable) (truncated : table.Truncated)
    (address : Address) (owner : PublicKey) :
    table.route? address = some owner ↔
      ∃ network, table.owners.get? network = some owner ∧ network.contains address = true ∧
        ∀ other rival, table.owners.get? other = some rival → other.contains address = true →
          other.length ≤ network.length := by
  have matching : ∀ network holder,
      (network, holder) ∈ (table.owners.entries.filter fun entry => entry.1.contains address) ↔
        table.owners.get? network = some holder ∧ network.contains address = true := by
    intro network holder
    rw [List.mem_filter, Table.get?_eq_some_iff]
  simp only [route?, Option.map_eq_some_iff]
  constructor
  · rintro ⟨⟨network, holder⟩, won, rfl⟩
    obtain ⟨member, longest⟩ := foldl_better_some _ none _ won
    obtain ⟨found, contains⟩ := (matching network holder).mp
      (member.resolve_left fun impossible => by cases impossible)
    refine ⟨network, found, contains, ?_⟩
    intro other rival otherFound otherContains
    exact longest (other, rival) (Or.inr ((matching other rival).mpr ⟨otherFound, otherContains⟩))
  · rintro ⟨network, found, contains, longest⟩
    have member := (matching network owner).mpr ⟨found, contains⟩
    obtain ⟨⟨other, rival⟩, won⟩ := Option.isSome_iff_exists.mp
      (foldl_better_isSome _ none (Or.inr (List.ne_nil_of_mem member)))
    obtain ⟨otherMember, otherLongest⟩ := foldl_better_some _ none _ won
    obtain ⟨otherFound, otherContains⟩ := (matching other rival).mp
      (otherMember.resolve_left fun impossible => by cases impossible)
    have length : other.length = network.length :=
      Nat.le_antisymm (longest other rival otherFound otherContains)
        (otherLongest (network, owner) (Or.inr member))
    obtain rfl := Network.eq_of_contains address (truncated other rival otherFound)
      (truncated network owner found) otherContains contains length
    exact ⟨(other, rival), won, Option.some.inj (otherFound.symm.trans found)⟩

end CryptokeyTable

end MeshNode
