import Mathlib.Data.List.Nodup
import MeshNode.Proofs.Tables
import MeshNode.Reconciler

/-!
# Prepared listings

Preparing leaves the local node out, sorts by identifier and keeps the first of
the records that share one. What comes out ascends strictly, so it is decided by
its records alone: two strictly ascending lists of the same records are one list,
and a listing with distinct identifiers may come in any order.

Devices that are gone are looked for in the listing by halving. What that finds is
always there, and because a prepared listing ascends, it finds all that is there. So
a prepared listing does not differ from a snapshot exactly if the snapshot holds each
of its records at the record's identifier, and no identifier besides; and two prepared
listings that do not differ from one snapshot are the same.
-/

namespace MeshNode.Reconciler

/-- Records by strictly ascending identifier. -/
abbrev Ascending (records : List PeerRecord) : Prop :=
  records.Pairwise fun a b => a.id.rank < b.id.rank

theorem id_of_rank {a b : Uuid} (same : a.rank = b.rank) : a = b := by
  cases a
  cases b
  exact congrArg Uuid.mk (BitVec.eq_of_toNat_eq same)

theorem ids_nodup_of_ascending {records : List PeerRecord} (ascending : Ascending records) :
    (records.map PeerRecord.id).Nodup := by
  rw [List.Nodup, List.pairwise_map]
  exact ascending.imp fun below same => by
    rw [same] at below
    exact Nat.lt_irrefl _ below

theorem dropRepeats_sublist (records : List PeerRecord) :
    (dropRepeats records).Sublist records := by
  fun_induction dropRepeats records with
  | case1 => exact List.Sublist.refl _
  | case2 record => exact List.Sublist.refl _
  | case3 record next rest same inductionHypothesis =>
    exact inductionHypothesis.trans ((List.sublist_cons_self next rest).cons_cons record)
  | case4 record next rest different inductionHypothesis =>
    exact inductionHypothesis.cons_cons record

/-- Dropping repetitions from an ascending list makes it ascend strictly. -/
theorem dropRepeats_ascending (records : List PeerRecord)
    (sorted : records.Pairwise fun a b => a.id.rank ≤ b.id.rank) :
    Ascending (dropRepeats records) := by
  fun_induction dropRepeats records with
  | case1 => exact List.Pairwise.nil
  | case2 record => exact List.pairwise_singleton _ _
  | case3 record next rest same inductionHypothesis =>
    exact inductionHypothesis
      (sorted.sublist ((List.sublist_cons_self next rest).cons_cons record))
  | case4 record next rest different inductionHypothesis =>
    obtain ⟨below, restSorted⟩ := List.pairwise_cons.mp sorted
    refine List.pairwise_cons.mpr ⟨?_, inductionHypothesis restSorted⟩
    intro later member
    have nextBelow : record.id.rank ≤ next.id.rank := below next List.mem_cons_self
    have apart : record.id.rank ≠ next.id.rank := fun same => different (id_of_rank same)
    have laterAbove : next.id.rank ≤ later.id.rank := by
      rcases List.mem_cons.mp ((dropRepeats_sublist _).subset member) with rfl | inRest
      · exact Nat.le_refl _
      · exact (List.pairwise_cons.mp restSorted).1 later inRest
    omega

/-- Where nothing repeats, nothing is dropped. -/
theorem dropRepeats_eq_self (records : List PeerRecord)
    (apart : (records.map PeerRecord.id).Nodup) : dropRepeats records = records := by
  fun_induction dropRepeats records with
  | case1 => rfl
  | case2 record => rfl
  | case3 record next rest same inductionHypothesis =>
    simp [same] at apart
  | case4 record next rest different inductionHypothesis =>
    rw [List.map_cons, List.nodup_cons] at apart
    rw [inductionHypothesis apart.2]

/-- Dropping repetitions leaves the first record of every identifier. -/
theorem find?_dropRepeats (id : Uuid) (records : List PeerRecord) :
    (dropRepeats records).find? (fun record => record.id = id) =
      records.find? fun record => record.id = id := by
  fun_induction dropRepeats records with
  | case1 => rfl
  | case2 record => rfl
  | case3 record next rest same inductionHypothesis =>
    rw [inductionHypothesis]
    by_cases own : next.id = id <;> simp [same, own]
  | case4 record next rest different inductionHypothesis =>
    rw [List.find?_cons, List.find?_cons, inductionHypothesis]

/-- Two strictly ascending lists of the same records are one list. -/
theorem eq_of_ascending (left right : List PeerRecord) (leftAscends : Ascending left)
    (rightAscends : Ascending right) (same : ∀ record, record ∈ left ↔ record ∈ right) :
    left = right := by
  have apart : ∀ records, Ascending records → records.Nodup := fun records ascends =>
    List.Nodup.of_map PeerRecord.id (ids_nodup_of_ascending ascends)
  have reordered : left.Perm right :=
    (List.perm_ext_iff_of_nodup (apart left leftAscends) (apart right rightAscends)).mpr same
  refine reordered.eq_of_pairwise ?_ leftAscends rightAscends
  intro a b _ _ ahead behind
  exact absurd ahead (Nat.lt_asymm behind)

theorem rank_le_trans (a b c : PeerRecord) (below : decide (a.id.rank ≤ b.id.rank) = true)
    (above : decide (b.id.rank ≤ c.id.rank) = true) : decide (a.id.rank ≤ c.id.rank) = true := by
  simp only [decide_eq_true_eq] at *
  omega

theorem rank_le_total (a b : PeerRecord) :
    (decide (a.id.rank ≤ b.id.rank) || decide (b.id.rank ≤ a.id.rank)) = true := by
  simp only [Bool.or_eq_true, decide_eq_true_eq]
  omega

/-- Sorting keeps values that are all on one level in their order. -/
theorem filter_mergeSort {α : Type} {le : α → α → Bool} {test : α → Bool}
    (trans : ∀ a b c, le a b = true → le b c = true → le a c = true)
    (total : ∀ a b, (le a b || le b a) = true)
    (level : ∀ a b, test a = true → test b = true → le a b = true) (values : List α) :
    (values.mergeSort le).filter test = values.filter test := by
  have sorted : (values.filter test).Pairwise fun a b => le a b = true := by
    rw [List.pairwise_filter]
    exact List.pairwise_of_forall fun a b first second => level a b first second
  have kept : (values.filter test).Sublist ((values.mergeSort le).filter test) := by
    have among := (List.sublist_mergeSort trans total sorted List.filter_sublist).filter test
    simpa only [List.filter_filter, Bool.and_self] using among
  exact (kept.eq_of_length ((List.mergeSort_perm values le).filter test).length_eq.symm).symm

section Prepare

variable (node : LocalNode) (listing : List PeerRecord)

/-- The records that are listed for others, by identifier, repetitions included. -/
abbrev sorted : List PeerRecord :=
  (listing.filter fun record => !node.isSelf record).mergeSort fun a b => a.id.rank ≤ b.id.rank

theorem prepare_ascending : Ascending (prepare node listing) := by
  apply dropRepeats_ascending
  have ordered : (sorted node listing).Pairwise
      fun a b => decide (a.id.rank ≤ b.id.rank) = true :=
    List.pairwise_mergeSort rank_le_trans rank_le_total _
  exact ordered.imp fun below => of_decide_eq_true below

/-- Of the listed records with one identifier the first that is not the local node is prepared. -/
theorem find?_prepare (id : Uuid) :
    (prepare node listing).find? (fun record => record.id = id) =
      listing.find? fun record => record.id = id && !node.isSelf record := by
  have level : ∀ a b : PeerRecord, decide (a.id = id) = true → decide (b.id = id) = true →
      decide (a.id.rank ≤ b.id.rank) = true := by
    intro a b first second
    rw [of_decide_eq_true first, of_decide_eq_true second]
    exact decide_eq_true (Nat.le_refl _)
  rw [prepare, find?_dropRepeats, ← List.head?_filter,
    filter_mergeSort rank_le_trans rank_le_total level, List.filter_filter, List.head?_filter]

/-- A prepared record is listed and is not the local node. -/
theorem mem_of_mem_prepare (record : PeerRecord) (member : record ∈ prepare node listing) :
    record ∈ listing ∧ node.isSelf record = false := by
  have sortedMember := (dropRepeats_sublist _).subset member
  simpa using sortedMember

theorem prepare_ids_nodup : ((prepare node listing).map PeerRecord.id).Nodup :=
  ids_nodup_of_ascending (prepare_ascending node listing)

/-- What is distinct in a listing is distinct in what is prepared of it. -/
theorem prepare_map_nodup {α : Type} (view : PeerRecord → α) (apart : (listing.map view).Nodup) :
    ((prepare node listing).map view).Nodup := by
  have kept : ((listing.filter fun record => !node.isSelf record).map view).Nodup :=
    apart.sublist (List.filter_sublist.map view)
  have sortedApart : ((sorted node listing).map view).Nodup :=
    ((List.mergeSort_perm _ _).map view).nodup_iff.mpr kept
  exact sortedApart.sublist ((dropRepeats_sublist _).map view)

/-- Where identifiers are distinct, every listed record but the local node is prepared. -/
theorem mem_prepare_iff (apart : (listing.map PeerRecord.id).Nodup) (record : PeerRecord) :
    record ∈ prepare node listing ↔ record ∈ listing ∧ node.isSelf record = false := by
  have kept : ((listing.filter fun record => !node.isSelf record).map PeerRecord.id).Nodup :=
    apart.sublist (List.filter_sublist.map PeerRecord.id)
  have sortedApart : ((sorted node listing).map PeerRecord.id).Nodup :=
    ((List.mergeSort_perm _ _).map PeerRecord.id).nodup_iff.mpr kept
  rw [prepare, dropRepeats_eq_self _ sortedApart]
  simp

/-- Where identifiers are distinct, the order of a listing does not matter. -/
theorem prepare_perm (other : List PeerRecord) (apart : (listing.map PeerRecord.id).Nodup)
    (reordered : other.Perm listing) : prepare node other = prepare node listing := by
  have otherApart : (other.map PeerRecord.id).Nodup :=
    (reordered.map PeerRecord.id).nodup_iff.mpr apart
  refine eq_of_ascending _ _ (prepare_ascending node other) (prepare_ascending node listing) ?_
  intro record
  rw [mem_prepare_iff node other otherApart, mem_prepare_iff node listing apart,
    reordered.mem_iff]

/-- An ascending listing of other devices is prepared as it is. -/
theorem prepare_of_ascending (ascending : Ascending listing)
    (others : ∀ record ∈ listing, node.isSelf record = false) :
    prepare node listing = listing := by
  refine eq_of_ascending _ _ (prepare_ascending node listing) ascending fun record => ?_
  rw [mem_prepare_iff node listing (ids_nodup_of_ascending ascending)]
  exact and_iff_left_of_imp (others record)

end Prepare

section Search

variable (id : Uuid) (records : List PeerRecord)

/-- What the search finds is there, in whatever order the records stand. -/
theorem exists_of_bisect (found : bisect id records = true) :
    ∃ record ∈ records, record.id = id := by
  fun_induction bisect id records with
  | case1 records several half inside below inductionHypothesis =>
    obtain ⟨record, member, own⟩ := inductionHypothesis found
    exact ⟨record, List.mem_of_mem_take member, own⟩
  | case2 records several half inside notBelow inductionHypothesis =>
    obtain ⟨record, member, own⟩ := inductionHypothesis found
    exact ⟨record, List.mem_of_mem_drop member, own⟩
  | case3 records single => simpa using found

/-- Where identifiers ascend, no record from the middle on has a smaller identifier than the one in
the middle, and every record before the middle has one. -/
theorem rank_of_mem_halves (ascending : Ascending records) (half : Nat)
    (inside : half < records.length) (record : PeerRecord) :
    (record ∈ records.drop half → records[half].id.rank ≤ record.id.rank) ∧
      (record ∈ records.take half → record.id.rank < records[half].id.rank) := by
  have whole : records.take half ++ records[half] :: records.drop (half + 1) = records := by
    rw [List.getElem_cons_drop, List.take_append_drop]
  rw [← whole] at ascending
  obtain ⟨_, back, across⟩ := List.pairwise_append.mp ascending
  constructor
  · intro member
    rw [← List.getElem_cons_drop inside] at member
    rcases List.mem_cons.mp member with rfl | later
    · exact Nat.le_refl _
    · exact Nat.le_of_lt ((List.pairwise_cons.mp back).1 record later)
  · exact fun member => across record member _ List.mem_cons_self

/-- Where identifiers ascend, the search finds whatever is there. -/
theorem bisect_of_mem (ascending : Ascending records) (record : PeerRecord)
    (member : record ∈ records) (own : record.id = id) : bisect id records = true := by
  fun_induction bisect id records with
  | case1 records several half inside below inductionHypothesis =>
    refine inductionHypothesis (ascending.sublist (List.take_sublist _ _)) ?_
    rw [← List.take_append_drop half records, List.mem_append] at member
    rcases member with first | last
    · have enough : half ≤ records.length - half := by omega
      exact (List.take_sublist_take_left enough).subset first
    · have above := (rank_of_mem_halves records ascending half inside record).1 last
      rw [own] at above
      exact absurd below (Nat.not_lt.mpr above)
  | case2 records several half inside notBelow inductionHypothesis =>
    refine inductionHypothesis (ascending.sublist (List.drop_sublist _ _)) ?_
    rw [← List.take_append_drop half records, List.mem_append] at member
    rcases member with first | last
    · have below := (rank_of_mem_halves records ascending half inside record).2 first
      rw [own] at below
      exact absurd below notBelow
    · exact last
  | case3 records single => simpa using ⟨record, member, own⟩

theorem bisect_iff (ascending : Ascending records) :
    bisect id records = true ↔ ∃ record ∈ records, record.id = id :=
  ⟨exists_of_bisect id records, fun ⟨record, member, own⟩ =>
    bisect_of_mem id records ascending record member own⟩

/-- Where identifiers descend, the search may miss one that is there. -/
example (record : PeerRecord) :
    bisect ⟨2⟩ [{ record with id := ⟨2⟩ }, { record with id := ⟨1⟩ }] = false := by
  cbv

end Search

/-- Nothing differs exactly if nothing was counted. -/
theorem ListingDiff.differs_eq_false_iff (diff : ListingDiff) :
    diff.differs = false ↔ diff.added = 0 ∧ diff.changed = 0 ∧ diff.removed = 0 := by
  simp only [differs, decide_eq_false_iff_not]
  omega

/-- A prepared listing does not differ from a snapshot exactly if the snapshot holds its records
at their identifiers, and nothing besides. -/
theorem differs_eq_false_iff (snapshot : Table Uuid CacheEntry) (peers : List PeerRecord)
    (ascending : Ascending peers) :
    (listingDiff snapshot peers).differs = false ↔
      (∀ peer ∈ peers, ∃ entry, snapshot.get? peer.id = some entry ∧ entry.record = peer) ∧
        ∀ id entry, snapshot.get? id = some entry → ∃ peer ∈ peers, peer.id = id := by
  rw [ListingDiff.differs_eq_false_iff]
  simp only [listingDiff, List.countP_eq_zero, Table.mem_keys_iff, Bool.not_eq_true',
    Bool.not_eq_false, bisect_iff _ peers ascending]
  constructor
  · rintro ⟨noneAdded, noneChanged, noneRemoved⟩
    constructor
    · intro peer member
      have held := noneAdded peer member
      have alike := noneChanged peer member
      cases found : snapshot.get? peer.id with
      | none => simp [Table.contains, found] at held
      | some entry => exact ⟨entry, rfl, by simpa [found] using alike⟩
    · intro id entry found
      simpa using noneRemoved id ⟨entry, found⟩
  · rintro ⟨held, listed⟩
    refine ⟨?_, ?_, ?_⟩
    · intro peer member
      obtain ⟨entry, found, _⟩ := held peer member
      simp [Table.contains, found]
    · intro peer member
      obtain ⟨entry, found, alike⟩ := held peer member
      simp [found, alike]
    · rintro id ⟨entry, found⟩
      simpa using listed id entry found

/-- Two strictly ascending listings that do not differ from one snapshot are one listing. -/
theorem eq_of_same_snapshot (snapshot : Table Uuid CacheEntry) (left right : List PeerRecord)
    (leftAscends : Ascending left) (rightAscends : Ascending right)
    (leftSame : (listingDiff snapshot left).differs = false)
    (rightSame : (listingDiff snapshot right).differs = false) : left = right := by
  have carriesOver : ∀ one other : List PeerRecord, Ascending one → Ascending other →
      (listingDiff snapshot one).differs = false →
      (listingDiff snapshot other).differs = false → ∀ record ∈ one, record ∈ other := by
    intro one other oneAscends otherAscends oneSame otherSame record member
    rw [differs_eq_false_iff snapshot one oneAscends] at oneSame
    rw [differs_eq_false_iff snapshot other otherAscends] at otherSame
    obtain ⟨entry, found, own⟩ := oneSame.1 record member
    obtain ⟨twin, twinMember, sameId⟩ := otherSame.2 record.id entry found
    obtain ⟨twinEntry, twinFound, twinOwn⟩ := otherSame.1 twin twinMember
    rw [sameId, found] at twinFound
    have same : twin = record := by
      rw [← twinOwn, ← own, Option.some.inj twinFound]
    exact same ▸ twinMember
  exact eq_of_ascending left right leftAscends rightAscends fun record =>
    ⟨carriesOver left right leftAscends rightAscends leftSame rightSame record,
      carriesOver right left rightAscends leftAscends rightSame leftSame record⟩

end MeshNode.Reconciler
