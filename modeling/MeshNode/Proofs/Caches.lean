import MeshNode.DeviceCache
import MeshNode.Proofs.Tables

/-!
# Snapshot and health

Health belongs to keys, and a key counts while some entry of the snapshot stands
under it. Replacing the snapshot keeps the health of the keys that it holds and
drops the rest, so a snapshot that holds all records of a listing leaves the verdict
on their relays as it was. Recording health adds none outside the snapshot.
-/

namespace MeshNode.DeviceCache

/-- The key is that of an entry. -/
def HasKey (entries : Table Uuid CacheEntry) (key : PublicKey) : Prop :=
  ∃ id entry, entries.get? id = some entry ∧ entry.record.publicKey = key

theorem holdsKey_iff (entries : Table Uuid CacheEntry) (key : PublicKey) :
    holdsKey entries key = true ↔ HasKey entries key := by
  simp only [holdsKey, HasKey, List.any_eq_true, beq_iff_eq, Table.mem_values_iff]
  constructor
  · rintro ⟨entry, ⟨id, found⟩, same⟩
    exact ⟨id, entry, found, same⟩
  · rintro ⟨id, entry, found, same⟩
    exact ⟨entry, ⟨id, found⟩, same⟩

instance (entries : Table Uuid CacheEntry) (key : PublicKey) : Decidable (HasKey entries key) :=
  decidable_of_iff _ (holdsKey_iff entries key)

/-- Pruning keeps the health of the keys of the given entries and drops all other. -/
theorem get?_pruneHealth (entries : Table Uuid CacheEntry) (health : Table PublicKey Health)
    (key : PublicKey) :
    (pruneHealth entries health).get? key =
      if holdsKey entries key then health.get? key else none :=
  Table.find?_filter (holdsKey entries) key health.entries

/-- A snapshot that holds the records leaves the verdict on their relays alone. -/
theorem relayHealthyAmong_replace (cache : DeviceCache) (entries : Table Uuid CacheEntry)
    (records : List PeerRecord)
    (held : ∀ record ∈ records, holdsKey entries record.publicKey = true) :
    (cache.replace entries).relayHealthyAmong records = cache.relayHealthyAmong records := by
  have kept : ∀ record ∈ records, (cache.replace entries).health.get? record.publicKey =
      cache.health.get? record.publicKey := by
    intro record member
    simp only [replace, get?_pruneHealth, held record member, if_true]
  rw [Bool.eq_iff_iff]
  simp only [relayHealthyAmong, List.any_eq_true]
  constructor
  · rintro ⟨record, member, healthy⟩
    exact ⟨record, member, by rwa [kept record member] at healthy⟩
  · rintro ⟨record, member, healthy⟩
    exact ⟨record, member, by rwa [kept record member]⟩

/-- Recording gives a key of the entries its result, if it has one; all else is as before. -/
theorem get?_insertHealth (entries : Table Uuid CacheEntry)
    (results health : Table PublicKey Health) (key : PublicKey) :
    (insertHealth entries results health).get? key =
      if holdsKey entries key then (results.get? key).or (health.get? key)
      else health.get? key := by
  obtain ⟨pairs, apart⟩ := results
  simp only [insertHealth, Table.get?]
  induction pairs generalizing health with
  | nil => simp [Table.find?]
  | cons pair rest inductionHypothesis =>
    obtain ⟨other, result⟩ := pair
    obtain ⟨fresh, restApart⟩ := List.nodup_cons.mp apart
    rw [List.foldl_cons, inductionHypothesis _ restApart]
    by_cases same : other = key
    · subst same
      have last : Table.find? other rest = none := Table.find?_eq_none rest other fresh
      by_cases held : holdsKey entries other
      · simp [held, last, Table.find?, Table.insert, Table.find?_place_self]
      · simp [held]
    · have untouched : Table.find? key (health.insert other result).entries =
          Table.find? key health.entries :=
        Table.find?_place_other other key result health.entries (Ne.symm same)
      by_cases held : holdsKey entries other <;> simp [held, Table.find?, same, untouched]

/-- Recorded health is that of keys in the snapshot, if it was so before. -/
theorem holdsKey_of_insertHealth (entries : Table Uuid CacheEntry)
    (results : Table PublicKey Health) (health : Table PublicKey Health)
    (held : ∀ key known, health.get? key = some known → holdsKey entries key = true)
    (key : PublicKey) (known : Health)
    (found : (insertHealth entries results health).get? key = some known) :
    holdsKey entries key = true := by
  rw [get?_insertHealth] at found
  split at found
  · assumption
  · exact held key known found

/-- Replacing a snapshot by itself changes nothing where all health is that of its keys. -/
theorem replace_self (cache : DeviceCache)
    (held : ∀ key known, cache.health.get? key = some known →
      holdsKey cache.snapshot key = true) :
    cache.replace cache.snapshot = cache := by
  have kept : pruneHealth cache.snapshot cache.health = cache.health :=
    cache.health.filter_eq_self _ held
  rw [replace, kept]

end MeshNode.DeviceCache
