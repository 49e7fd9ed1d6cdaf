import Mathlib.Data.Set.Card
import MeshNode.Proofs.CacheAgreement

/-!
# Differences of listings

A snapshot and a prepared listing are two maps from identifiers to records. The difference
that a tick takes of them counts the identifiers that only the listing has, those that both
have with different records, and those that only the snapshot has. These are all the
identifiers at which the maps differ, so that the counts are all zero exactly if the maps are
the same.

What the listing maps an identifier to is said of the listing as it came: the first record with
the identifier that is not the local node. The counts are right because of the preparation.
Each identifier is prepared once, so a record is counted once; and identifiers ascend, so the
search by halving misses none that is still listed.
-/

namespace MeshNode

/-- The record that the snapshot holds at an identifier. -/
def DeviceCache.recordAt? (cache : DeviceCache) (id : Uuid) : Option PeerRecord :=
  (cache.snapshot.get? id).map CacheEntry.record

namespace Reconciler

/-- The record that is listed under an identifier for another device than the local node. Of
several the first counts. -/
def listedAt? (node : LocalNode) (listing : List PeerRecord) (id : Uuid) : Option PeerRecord :=
  listing.find? fun record => record.id = id && !node.isSelf record

/-- Values with distinct keys are as many as their keys. -/
theorem countP_eq_encard {α κ : Type} [DecidableEq κ] (view : α → κ) (values : List α)
    (apart : (values.map view).Nodup) (test : α → Bool) :
    (values.countP test : ℕ∞) =
      {key | ∃ value ∈ values, test value = true ∧ view value = key}.encard := by
  have kept : ((values.filter test).map view).Nodup :=
    apart.sublist (List.filter_sublist.map view)
  have passed : {key | ∃ value ∈ values, test value = true ∧ view value = key} =
      ((values.filter test).map view).toFinset := by
    ext key
    simp [and_assoc]
  rw [passed, Set.encard_coe_eq_coe_finsetCard, List.toFinset_card_of_nodup kept,
    List.length_map, List.countP_eq_length_filter]

/-- A prepared listing has exactly the records that are listed under their identifiers. -/
theorem mem_prepare_iff_listedAt? (node : LocalNode) (listing : List PeerRecord)
    (record : PeerRecord) :
    record ∈ prepare node listing ↔ listedAt? node listing record.id = some record := by
  rw [listedAt?, ← find?_prepare]
  constructor
  · intro member
    obtain ⟨twin, found⟩ : ∃ twin,
        (prepare node listing).find? (fun other => other.id = record.id) = some twin :=
      Option.isSome_iff_exists.mp (List.find?_isSome.mpr ⟨record, member, by simp⟩)
    have same : twin.id = record.id := by simpa using List.find?_some found
    rw [found, List.inj_on_of_nodup_map (prepare_ids_nodup node listing)
      (List.mem_of_find?_eq_some found) member same]
  · exact List.mem_of_find?_eq_some

/-- What is listed under an identifier has it. -/
theorem id_of_listedAt? (node : LocalNode) (listing : List PeerRecord) (id : Uuid)
    (record : PeerRecord) (listed : listedAt? node listing id = some record) : record.id = id := by
  have passes := List.find?_some listed
  simp only [Bool.and_eq_true, decide_eq_true_eq] at passes
  exact passes.1

section Counts

variable (cache : DeviceCache) (node : LocalNode) (listing : List PeerRecord)

/-- An identifier is listed exactly if it was prepared. -/
theorem listedAt?_ne_none_iff (id : Uuid) :
    listedAt? node listing id ≠ none ↔ ∃ peer ∈ prepare node listing, peer.id = id := by
  constructor
  · intro present
    obtain ⟨record, listed⟩ := Option.ne_none_iff_exists'.mp present
    obtain rfl := id_of_listedAt? node listing id record listed
    exact ⟨record, (mem_prepare_iff_listedAt? node listing record).mpr listed, rfl⟩
  · rintro ⟨peer, member, rfl⟩
    rw [(mem_prepare_iff_listedAt? node listing peer).mp member]
    exact Option.some_ne_none peer

/-- New are the identifiers that only the listing has. -/
theorem added_eq_encard :
    ((listingDiff cache.snapshot (prepare node listing)).added : ℕ∞) =
      {id | cache.recordAt? id = none ∧ listedAt? node listing id ≠ none}.encard := by
  rw [listingDiff, countP_eq_encard PeerRecord.id _ (prepare_ids_nodup node listing)]
  congr 1
  ext id
  simp only [Set.mem_ofPred_eq, listedAt?_ne_none_iff, DeviceCache.recordAt?,
    Option.map_eq_none_iff, Bool.not_eq_true', Table.contains_eq_false_iff]
  constructor
  · rintro ⟨peer, member, absent, rfl⟩
    exact ⟨absent, peer, member, rfl⟩
  · rintro ⟨absent, peer, member, rfl⟩
    exact ⟨peer, member, absent, rfl⟩

/-- Changed are the identifiers that both have, with different records. -/
theorem changed_eq_encard :
    ((listingDiff cache.snapshot (prepare node listing)).changed : ℕ∞) =
      {id | cache.recordAt? id ≠ none ∧ listedAt? node listing id ≠ none ∧
        cache.recordAt? id ≠ listedAt? node listing id}.encard := by
  rw [listingDiff, countP_eq_encard PeerRecord.id _ (prepare_ids_nodup node listing)]
  congr 1
  ext id
  simp only [Set.mem_ofPred_eq, listedAt?_ne_none_iff]
  constructor
  · rintro ⟨peer, member, counted, rfl⟩
    have listed := (mem_prepare_iff_listedAt? node listing peer).mp member
    cases found : cache.snapshot.get? peer.id with
    | none => simp [found] at counted
    | some entry =>
      have other : entry.record ≠ peer := by simpa [found] using counted
      refine ⟨?_, ⟨peer, member, rfl⟩, ?_⟩
      · simp [DeviceCache.recordAt?, found]
      · simpa [DeviceCache.recordAt?, found, listed] using other
  · rintro ⟨held, ⟨peer, member, rfl⟩, other⟩
    have listed := (mem_prepare_iff_listedAt? node listing peer).mp member
    refine ⟨peer, member, ?_, rfl⟩
    cases found : cache.snapshot.get? peer.id with
    | none => simp [DeviceCache.recordAt?, found] at held
    | some entry => simpa [DeviceCache.recordAt?, found, listed] using other

/-- Gone are the identifiers that only the snapshot has. -/
theorem removed_eq_encard :
    ((listingDiff cache.snapshot (prepare node listing)).removed : ℕ∞) =
      {id | cache.recordAt? id ≠ none ∧ listedAt? node listing id = none}.encard := by
  have apart : (cache.snapshot.keys.map fun id => id).Nodup := by
    rw [List.map_id']
    exact cache.snapshot.nodup
  have held : ∀ id, id ∈ cache.snapshot.keys ↔ cache.recordAt? id ≠ none := by
    intro id
    rw [Table.mem_keys_iff, DeviceCache.recordAt?, ne_eq, Option.map_eq_none_iff, ← ne_eq,
      Option.ne_none_iff_exists']
  have missed : ∀ id, bisect id (prepare node listing) = false ↔
      listedAt? node listing id = none := by
    intro id
    rw [← Bool.not_eq_true, bisect_iff id _ (prepare_ascending node listing),
      ← listedAt?_ne_none_iff, not_not]
  rw [listingDiff, countP_eq_encard (fun id => id) _ apart]
  congr 1
  ext id
  simp only [Set.mem_ofPred_eq, Bool.not_eq_true', held, missed]
  constructor
  · rintro ⟨_, present, unlisted, rfl⟩
    exact ⟨present, unlisted⟩
  · rintro ⟨present, unlisted⟩
    exact ⟨id, present, unlisted, rfl⟩

/-- A prepared listing differs from a snapshot exactly if the two maps do. -/
theorem differs_iff :
    (listingDiff cache.snapshot (prepare node listing)).differs = true ↔
      cache.recordAt? ≠ listedAt? node listing := by
  rw [← Bool.not_eq_false, not_iff_not, ListingDiff.differs_eq_false_iff]
  simp only [← Nat.cast_eq_zero (R := ℕ∞), added_eq_encard, changed_eq_encard,
    removed_eq_encard, Set.encard_eq_zero, Set.eq_empty_iff_forall_notMem, Set.mem_ofPred_eq]
  constructor
  · rintro ⟨noneAdded, noneChanged, noneRemoved⟩
    funext id
    by_contra other
    by_cases held : cache.recordAt? id = none
    · exact noneAdded id ⟨held, fun unlisted => other (held.trans unlisted.symm)⟩
    · by_cases unlisted : listedAt? node listing id = none
      · exact noneRemoved id ⟨held, unlisted⟩
      · exact noneChanged id ⟨held, unlisted, other⟩
  · intro same
    simp [same]

end Counts

end Reconciler

namespace Node

open Reconciler

variable {World : Type} (driver : Driver World)

/-- Every snapshot that a run writes has each record at the record's own identifier. -/
theorem run_recordAt?_own (localNode : LocalNode) (cache : DeviceCache) (applier : Applier)
    (world : World) (events : List NodeEvent) :
    let node := run driver events (start localNode cache applier world)
    node.cache.snapshot = cache.snapshot ∨
      ∀ id record, node.cache.recordAt? id = some record → record.id = id := by
  refine @run_induction _ driver (fun node => node.cache.snapshot = cache.snapshot ∨
    ∀ id record, node.cache.recordAt? id = some record → record.id = id) events
    ?passed ?awaited ?resumed ?recorded ?updated _ ?initial
  case passed =>
    intro listing node _
    right
    intro id record held
    have planned := planFor_records node (prepare node.localNode listing)
      (prepare_ids_nodup node.localNode listing) id
    have found := planned.symm.trans held
    simpa using List.find?_some found
  case awaited => exact fun node own => own
  case resumed => exact fun node own => own
  case recorded => exact fun results node own => own
  case updated => exact fun change _ node own => own
  case initial => exact Or.inl rfl

/-- After every run, and for every listing: a snapshot that the run wrote has each record at the
record's own identifier; the prepared listing has the records that are listed under their
identifiers; the difference of the two counts the identifiers at which only the listing has a
record, both have different ones, and only the snapshot has one; and there is a difference exactly
if the two maps differ. -/
theorem listing_differs_iff (localNode : LocalNode) (cache : DeviceCache) (applier : Applier)
    (world : World) (events : List NodeEvent) (listing : List PeerRecord) :
    let node := run driver events (start localNode cache applier world)
    let held := node.cache.recordAt?
    let listed := listedAt? node.localNode listing
    let peers := prepare node.localNode listing
    let diff := listingDiff node.cache.snapshot peers
    (node.cache.snapshot = cache.snapshot ∨
        ∀ id record, held id = some record → record.id = id) ∧
      (∀ record, record ∈ peers ↔ listed record.id = some record) ∧
      diff.added = {id | held id = none ∧ listed id ≠ none}.encard ∧
      diff.changed = {id | held id ≠ none ∧ listed id ≠ none ∧ held id ≠ listed id}.encard ∧
      diff.removed = {id | held id ≠ none ∧ listed id = none}.encard ∧
      (diff.differs = true ↔ held ≠ listed) := by
  intro node held listed peers diff
  exact ⟨run_recordAt?_own driver localNode cache applier world events,
    mem_prepare_iff_listedAt? node.localNode listing,
    added_eq_encard node.cache node.localNode listing,
    changed_eq_encard node.cache node.localNode listing,
    removed_eq_encard node.cache node.localNode listing,
    differs_iff node.cache node.localNode listing⟩

/-- Of two devices in a snapshot one is listed again, first with a new name and then as it was.
Another one is new, and the second device is not listed any more. -/
example :
    let kept := Sample.device ""
    let renamed := { kept with hostname := "renamed" }
    let gone := { kept with id := ⟨2⟩, publicKey := Sample.key 2 }
    let fresh := { kept with id := ⟨3⟩, publicKey := Sample.key 3 }
    let entries := [kept, gone].map fun record => (record.id, entryOf record .unreachable none)
    listingDiff (Table.ofList entries) (prepare Sample.home [fresh, renamed, kept]) =
      ⟨1, 1, 1⟩ := by
  cbv

end Node

end MeshNode
