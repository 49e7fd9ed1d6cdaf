import Mathlib.Data.List.Nodup
import MeshNode.Proofs.Prefixes

/-!
# Condensed lists of prefixes

Clearing the host bits of a prefix changes none of its leading bits, and so it contains the
addresses that it contained before. A list of prefixes is condensed to the truncations that
occur in it, each once, in the order in which they first occur. These conditions leave no
choice: two lists that condense the same prefixes have the same members, and the place of the
first occurrence orders them strictly.

The list that is kept of some prefixes is the one that condenses them. Lists of prefixes are
compared in their order and extended more than once, so the order has to settle: what was
condensed is condensed already, it may stand for the prefixes that it came from wherever others
are appended, and appending the same ones again leaves it as it is.
-/

namespace MeshNode.Network

/-! ## Truncation -/

/-- No host bit of the prefix is set. -/
def HostClear (network : Network) : Prop :=
  ∀ place < network.address.family.width - network.length,
    network.address.toNat.testBit place = false

/-- Truncation clears the host bits. -/
theorem hostClear_truncate (network : Network) : network.truncate.HostClear := by
  intro place below
  rw [family_truncate, length_truncate] at below
  rw [toNat_truncate, clearHost, Nat.testBit_shiftLeft, decide_eq_false (Nat.not_le.mpr below),
    Bool.false_and]

/-- A prefix contains the same addresses with and without its host bits. -/
theorem contains_truncate (network : Network) (address : Address) :
    network.truncate.contains address = network.contains address := by
  simp only [contains, toNat_truncate, family_truncate, length_truncate, clearHost,
    Nat.shiftLeft_shiftRight]

/-! ## Condensing -/

/-- The kept prefixes are the truncations of the given ones, each once, in the order in which they
first occur, and cover what these cover. -/
structure Condenses (networks kept : List Network) : Prop where
  members : ∀ network, network ∈ kept ↔ network ∈ networks.map truncate
  hostClear : ∀ network ∈ kept, network.HostClear
  nodup : kept.Nodup
  ordered : kept.Pairwise fun first second =>
    (networks.map truncate).idxOf first < (networks.map truncate).idxOf second
  covers : ∀ address, (∃ network ∈ kept, network.contains address = true) ↔
    ∃ network ∈ networks, network.contains address = true

/-- Prefixes are condensed to one list only. -/
theorem Condenses.unique {networks left right : List Network} (one : Condenses networks left)
    (other : Condenses networks right) : left = right := by
  have reordered : left.Perm right := by
    refine (List.perm_ext_iff_of_nodup one.nodup other.nodup).mpr fun network => ?_
    rw [one.members, other.members]
  refine reordered.eq_of_pairwise ?_ one.ordered other.ordered
  intro first second _ _ ahead behind
  exact absurd ahead (Nat.lt_asymm behind)

/-- The kept prefixes stand in the order in which their truncations first occur. -/
theorem distinctAfter_ordered (networks seen : List Network) :
    (distinctAfter seen networks).Pairwise fun first second =>
      (networks.map truncate).idxOf first < (networks.map truncate).idxOf second := by
  induction networks generalizing seen with
  | nil => exact List.Pairwise.nil
  | cons network rest inductionHypothesis =>
    -- Where the head was seen, nothing kept of the rest equals it, so its place moves by one.
    have moved : ∀ before, network.truncate ∈ before → ∀ kept ∈ distinctAfter before rest,
        ((network :: rest).map truncate).idxOf kept = (rest.map truncate).idxOf kept + 1 := by
      intro before among kept member
      have different : network.truncate ≠ kept := by
        rintro rfl
        exact ((mem_distinctAfter_iff rest before _).mp member).1 among
      rw [List.map_cons, List.idxOf_cons_ne _ different]
    have restOrdered : ∀ before, network.truncate ∈ before →
        (distinctAfter before rest).Pairwise fun first second =>
          ((network :: rest).map truncate).idxOf first <
            ((network :: rest).map truncate).idxOf second := by
      intro before among
      refine (inductionHypothesis before).imp_of_mem fun {first second} one other below => ?_
      rw [moved before among first one, moved before among second other]
      exact Nat.succ_lt_succ below
    unfold distinctAfter
    by_cases among : network.truncate ∈ seen
    · rw [if_pos among]
      exact restOrdered seen among
    · rw [if_neg among]
      refine List.pairwise_cons.mpr ⟨?_, restOrdered _ List.mem_cons_self⟩
      intro kept member
      rw [moved _ List.mem_cons_self kept member, List.map_cons, List.idxOf_cons_self]
      exact Nat.succ_pos _

/-- Truncating prefixes and leaving some out as repetitions changes nothing about what they
cover. -/
theorem covers_distinct (networks : List Network) (address : Address) :
    (∃ network ∈ distinct networks, network.contains address = true) ↔
      ∃ network ∈ networks, network.contains address = true := by
  constructor
  · rintro ⟨kept, member, contained⟩
    obtain ⟨network, listed, rfl⟩ := (mem_distinct_iff networks kept).mp member
    exact ⟨network, listed, (contains_truncate network address).symm.trans contained⟩
  · rintro ⟨network, listed, contained⟩
    refine ⟨network.truncate, (mem_distinct_iff networks _).mpr ⟨network, listed, rfl⟩, ?_⟩
    exact (contains_truncate network address).trans contained

/-- The prefixes that a list keeps condense it. -/
theorem condenses_distinct (networks : List Network) : Condenses networks (distinct networks) where
  members network := by rw [mem_distinct_iff, List.mem_map]
  hostClear kept member := by
    obtain ⟨network, _, rfl⟩ := (mem_distinct_iff networks kept).mp member
    exact hostClear_truncate network
  nodup := (distinct_of_list networks).nodup
  ordered := distinctAfter_ordered networks []
  covers := covers_distinct networks

/-- A list keeps exactly what condenses it. What is kept of it is kept again, as if it were the
whole list whatever is appended, and appending the same prefixes a second time adds nothing. -/
theorem distinct_condenses (networks more : List Network) :
    (∀ kept, Condenses networks kept ↔ kept = distinct networks) ∧
      distinct (distinct networks) = distinct networks ∧
      distinct (distinct networks ++ more) = distinct (networks ++ more) ∧
      distinct (distinct (networks ++ more) ++ more) = distinct (networks ++ more) := by
  refine ⟨fun kept => ?exact, ?again, ?absorbed, ?twice⟩
  case exact =>
    constructor
    · exact fun condenses => condenses.unique (condenses_distinct networks)
    · rintro rfl
      exact condenses_distinct networks
  case again =>
    have nothing := distinct_distinct_append networks []
    rwa [List.append_nil, List.append_nil] at nothing
  case absorbed => exact distinct_distinct_append networks more
  case twice => exact distinct_append_twice networks more

/-- Of 10.0.0.0/24, fd00::/64, 10.0.0.7/24 and fd00::1/64 the first two are kept. -/
example :
    let v4 := fun last => (⟨Address.ofOctets 10 0 0 last, 24, Nat.le_add_right 24 8⟩ : Network)
    let v6 := fun last => (⟨.v6 (0xFD00#128 <<< 112 + last), 64, Nat.le_add_right 64 64⟩ : Network)
    distinct [v4 0, v6 0, v4 7, v6 1] = [v4 0, v6 0] := by decide

end MeshNode.Network
