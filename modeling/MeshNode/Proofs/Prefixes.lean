import MeshNode.Network

/-!
# Truncated and distinct prefixes

Truncation clears host bits, so truncating twice is truncating once. Keeping the
first of equal prefixes looks at those already kept only as a set; a list that is
truncated and free of repetitions is kept as it is, and what is appended to it adds
exactly what is new. Appending the same prefixes a second time therefore changes
nothing.
-/

namespace MeshNode.Network

/-- Clearing host bits never makes a number larger. -/
theorem clearHost_le (width length n : Nat) : clearHost width length n ≤ n := by
  rw [clearHost, Nat.shiftRight_eq_div_pow, Nat.shiftLeft_eq]
  exact Nat.div_mul_le_self n _

/-- Host bits that are clear stay clear. -/
theorem clearHost_clearHost (width length n : Nat) :
    clearHost width length (clearHost width length n) = clearHost width length n := by
  simp only [clearHost, Nat.shiftLeft_shiftRight]

/-- A number with its host bits cleared fits the width that it fitted before. -/
theorem toNat_clearHost {width : Nat} (length : Nat) (bits : BitVec width) :
    (BitVec.ofNat width (clearHost width length bits.toNat)).toNat =
      clearHost width length bits.toNat := by
  rw [BitVec.toNat_ofNat]
  exact Nat.mod_eq_of_lt (Nat.lt_of_le_of_lt (clearHost_le width length bits.toNat) bits.isLt)

theorem family_truncate (network : Network) :
    network.truncate.address.family = network.address.family := by
  obtain ⟨address, length, fits⟩ := network
  cases address <;> rfl

theorem length_truncate (network : Network) : network.truncate.length = network.length := by
  obtain ⟨address, length, fits⟩ := network
  cases address <;> rfl

/-- Truncation clears the host bits of the address. -/
theorem toNat_truncate (network : Network) :
    network.truncate.address.toNat =
      clearHost network.address.family.width network.length network.address.toNat := by
  obtain ⟨address, length, fits⟩ := network
  cases address with
  | v4 bits => exact toNat_clearHost length bits
  | v6 bits => exact toNat_clearHost length bits

/-- Truncating twice is truncating once. -/
@[simp] theorem truncate_truncate (network : Network) :
    network.truncate.truncate = network.truncate := by
  obtain ⟨address, length, fits⟩ := network
  cases address with
  | v4 bits => simp only [truncate, toNat_clearHost, clearHost_clearHost]
  | v6 bits => simp only [truncate, toNat_clearHost, clearHost_clearHost]

/-- Of the prefixes kept already only their set matters. -/
theorem distinctAfter_congr (networks seen other : List Network)
    (same : ∀ network, network ∈ seen ↔ network ∈ other) :
    distinctAfter seen networks = distinctAfter other networks := by
  induction networks generalizing seen other with
  | nil => rfl
  | cons network rest inductionHypothesis =>
    unfold distinctAfter
    by_cases kept : network.truncate ∈ seen
    · rw [if_pos kept, if_pos ((same _).mp kept)]
      exact inductionHypothesis seen other same
    · rw [if_neg kept, if_neg fun member => kept ((same _).mpr member)]
      refine congrArg (network.truncate :: ·) (inductionHypothesis _ _ ?_)
      simp [same]

/-- The kept prefixes are the truncated ones that were not kept before. -/
theorem mem_distinctAfter_iff (networks seen : List Network) (kept : Network) :
    kept ∈ distinctAfter seen networks ↔
      kept ∉ seen ∧ ∃ network ∈ networks, network.truncate = kept := by
  induction networks generalizing seen with
  | nil => simp [distinctAfter]
  | cons network rest inductionHypothesis =>
    unfold distinctAfter
    by_cases already : network.truncate ∈ seen
    · rw [if_pos already, inductionHypothesis]
      constructor
      · rintro ⟨fresh, other, member, rfl⟩
        exact ⟨fresh, other, List.mem_cons_of_mem _ member, rfl⟩
      · rintro ⟨fresh, other, member, rfl⟩
        rcases List.mem_cons.mp member with rfl | later
        · exact absurd already fresh
        · exact ⟨fresh, other, later, rfl⟩
    · rw [if_neg already, List.mem_cons, inductionHypothesis, List.mem_cons, not_or]
      constructor
      · rintro (rfl | ⟨⟨_, fresh⟩, other, member, rfl⟩)
        · exact ⟨already, network, List.mem_cons_self, rfl⟩
        · exact ⟨fresh, other, List.mem_cons_of_mem _ member, rfl⟩
      · rintro ⟨fresh, other, member, rfl⟩
        by_cases first : other.truncate = network.truncate
        · exact Or.inl first
        · rcases List.mem_cons.mp member with rfl | later
          · exact absurd rfl first
          · exact Or.inr ⟨⟨first, fresh⟩, other, later, rfl⟩

/-- No prefix is kept twice. -/
theorem distinctAfter_nodup (networks seen : List Network) :
    (distinctAfter seen networks).Nodup := by
  induction networks generalizing seen with
  | nil => simp [distinctAfter]
  | cons network rest inductionHypothesis =>
    unfold distinctAfter
    split
    · exact inductionHypothesis seen
    · rw [List.nodup_cons]
      refine ⟨?_, inductionHypothesis _⟩
      simp [mem_distinctAfter_iff]

/-- What a list keeps is what its front keeps, and then what its back adds. -/
theorem distinctAfter_append (front back seen : List Network) :
    distinctAfter seen (front ++ back) =
      distinctAfter seen front ++ distinctAfter (seen ++ distinctAfter seen front) back := by
  induction front generalizing seen with
  | nil => simp [distinctAfter]
  | cons network rest inductionHypothesis =>
    simp only [List.cons_append, distinctAfter]
    split
    · exact inductionHypothesis seen
    · have seenAlike : ∀ kept,
          kept ∈ network.truncate :: seen ++ distinctAfter (network.truncate :: seen) rest ↔
            kept ∈ seen ++ network.truncate :: distinctAfter (network.truncate :: seen) rest := by
        intro kept
        simp only [List.cons_append, List.mem_cons, List.mem_append, or_left_comm]
      rw [inductionHypothesis, distinctAfter_congr back _ _ seenAlike]
      rfl

/-- Truncated prefixes that are distinct and new are all kept. -/
theorem distinctAfter_eq_self (networks seen : List Network)
    (truncated : ∀ network ∈ networks, network.truncate = network)
    (apart : networks.Nodup) (fresh : ∀ network ∈ networks, network ∉ seen) :
    distinctAfter seen networks = networks := by
  induction networks generalizing seen with
  | nil => rfl
  | cons network rest inductionHypothesis =>
    obtain ⟨restFresh, restApart⟩ := List.nodup_cons.mp apart
    have own : network.truncate = network := truncated network List.mem_cons_self
    unfold distinctAfter
    rw [own, if_neg (fresh network List.mem_cons_self)]
    refine congrArg (network :: ·) (inductionHypothesis _ ?_ restApart ?_)
    · exact fun other member => truncated other (List.mem_cons_of_mem _ member)
    · intro other member seenBefore
      rcases List.mem_cons.mp seenBefore with rfl | before
      · exact restFresh member
      · exact fresh other (List.mem_cons_of_mem _ member) before

theorem mem_distinct_iff (networks : List Network) (kept : Network) :
    kept ∈ distinct networks ↔ ∃ network ∈ networks, network.truncate = kept := by
  simp [distinct, mem_distinctAfter_iff]

theorem truncate_of_mem_distinct (networks : List Network) (kept : Network)
    (member : kept ∈ distinct networks) : kept.truncate = kept := by
  obtain ⟨network, _, rfl⟩ := (mem_distinct_iff networks kept).mp member
  exact truncate_truncate network

/-- Prefixes that are kept already are left out, and the others are kept as they would be. -/
theorem distinctAfter_seen_append (networks extra seen : List Network) :
    distinctAfter (extra ++ seen) networks =
      (distinctAfter seen networks).filter fun network => network ∉ extra := by
  induction networks generalizing seen with
  | nil => rfl
  | cons network rest inductionHypothesis =>
    have later : distinctAfter (network.truncate :: (extra ++ seen)) rest =
        (distinctAfter (network.truncate :: seen) rest).filter fun other => other ∉ extra := by
      rw [← inductionHypothesis]
      exact distinctAfter_congr rest _ _ fun other => by
        simp only [List.mem_cons, List.mem_append, or_left_comm]
    unfold distinctAfter
    by_cases before : network.truncate ∈ seen
    · rw [if_pos before, if_pos (List.mem_append_right _ before), inductionHypothesis]
    · rw [if_neg before]
      by_cases among : network.truncate ∈ extra
      · -- Left out of the longer list, it is not kept for the second time in the shorter either.
        rw [if_pos (List.mem_append_left _ among), List.filter_cons_of_neg (by simpa using among),
          ← later]
        refine distinctAfter_congr rest _ _ fun other => ?_
        rw [List.mem_cons]
        refine (or_iff_right_of_imp ?_).symm
        rintro rfl
        exact List.mem_append_left _ among
      · rw [if_neg fun member => (List.mem_append.mp member).elim among before,
          List.filter_cons_of_pos (by simpa using among), later]

/-- Keeping the first of equal prefixes is truncating all of them and erasing repetitions. -/
theorem distinctAfter_eq_eraseDups (networks seen : List Network) :
    distinctAfter seen networks =
      ((networks.map truncate).filter fun network => network ∉ seen).eraseDups := by
  induction networks generalizing seen with
  | nil => rfl
  | cons network rest inductionHypothesis =>
    rw [List.map_cons, distinctAfter]
    by_cases before : network.truncate ∈ seen
    · rw [if_pos before, inductionHypothesis, List.filter_cons_of_neg (by simpa using before)]
    · rw [if_neg before, inductionHypothesis, List.filter_cons_of_pos (by simpa using before),
        List.eraseDups_cons, List.filter_filter]
      simp only [List.mem_cons, not_or, Bool.decide_and, decide_not, Bool.beq_eq_decide_eq]

theorem distinct_eq_eraseDups (networks : List Network) :
    distinct networks = (networks.map truncate).eraseDups := by
  rw [distinct, distinctAfter_eq_eraseDups, List.filter_eq_self.mpr]
  simp

/-- Prefixes without host bits and without repetition. -/
structure Distinct (networks : List Network) : Prop where
  truncated : ∀ network ∈ networks, network.truncate = network
  nodup : networks.Nodup

/-- The prefixes that a list keeps are distinct. -/
theorem distinct_of_list (networks : List Network) : Distinct (distinct networks) :=
  ⟨truncate_of_mem_distinct networks, distinctAfter_nodup networks []⟩

/-- Distinct prefixes are all kept, and of what is appended to them whatever is new. -/
theorem Distinct.append {networks : List Network} (apart : Distinct networks)
    (more : List Network) :
    distinct (networks ++ more) =
      networks ++ (distinct more).filter fun network => network ∉ networks := by
  have front : distinctAfter [] networks = networks :=
    distinctAfter_eq_self networks [] apart.truncated apart.nodup (by simp)
  have back := distinctAfter_seen_append more networks []
  rw [List.append_nil] at back
  rw [distinct, distinctAfter_append, front, List.nil_append, back]
  rfl

/-- What is appended to a list that was made distinct is kept as if it had not been. -/
theorem distinct_distinct_append (networks more : List Network) :
    distinct (distinct networks ++ more) = distinct (networks ++ more) := by
  have back := distinctAfter_seen_append more (distinct networks) []
  rw [List.append_nil] at back
  rw [(distinct_of_list networks).append more, distinct, distinct, distinct, distinctAfter_append,
    List.nil_append, ← distinct, back]

/-- Appending prefixes that a list keeps already changes nothing. -/
theorem distinct_append_of_kept (networks more : List Network)
    (kept : ∀ network ∈ more, network.truncate ∈ distinct networks) :
    distinct (distinct networks ++ more) = distinct networks := by
  rw [(distinct_of_list networks).append more, List.filter_eq_nil_iff.mpr, List.append_nil]
  intro network member
  obtain ⟨other, among, rfl⟩ := (mem_distinct_iff more network).mp member
  simpa using kept other among

/-- Appending the same prefixes a second time changes nothing. -/
theorem distinct_append_twice (networks more : List Network) :
    distinct (distinct (networks ++ more) ++ more) = distinct (networks ++ more) := by
  apply distinct_append_of_kept
  intro network member
  exact (mem_distinct_iff _ _).mpr ⟨network, List.mem_append_right _ member, rfl⟩

end MeshNode.Network
