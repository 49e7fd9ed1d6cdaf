import MeshNode.Proofs.Batches
import MeshNode.Proofs.Caches
import MeshNode.Proofs.Runs

/-!
# What a probe cycle finds

A cycle probes the addresses of one family and then those of the other, and a device may have
both, one or none. The main statement says what is left of the answers: a result for every device
with an address, by which it is reachable if one of its addresses answered, with the latency of
the fourth version where that answered and of the sixth otherwise.

What a probe comes to is not constrained; two devices may even share an address that answers one
of them. The results are entered later, and devices may have left by then: the health of a key
that is still there is its result, and all else in the cache is as it was. A relay probes nobody.
-/

namespace MeshNode

namespace DeviceCache

variable (cache : DeviceCache)

/-- No two entries of the snapshot have one key. -/
def KeysApart : Prop := (cache.snapshot.values.map fun entry => entry.record.publicKey).Nodup

theorem mem_probeTargets_iff (family : Family) (target : ProbeTarget) :
    target ∈ cache.probeTargets family ↔ ∃ entry ∈ cache.snapshot.values,
      ∃ address, tunnelAddress? family entry.record = some address ∧
        ⟨entry.record.publicKey, address⟩ = target := by
  simp only [probeTargets, List.mem_mergeSort, List.mem_filterMap, Option.map_eq_some_iff]

/-- The keys of a family's targets are among the keys of the entries, in any order. -/
theorem probeTargets_keys_nodup (apart : cache.KeysApart) (family : Family) :
    ((cache.probeTargets family).map ProbeTarget.publicKey).Nodup := by
  have keys (entries : List CacheEntry) : ((entries.filterMap fun entry =>
      (tunnelAddress? family entry.record).map fun address =>
        (⟨entry.record.publicKey, address⟩ : ProbeTarget)).map ProbeTarget.publicKey).Sublist
      (entries.map fun entry => entry.record.publicKey) := by
    induction entries with
    | nil => exact List.Sublist.slnil
    | cons entry rest inductionHypothesis =>
      cases found : tunnelAddress? family entry.record with
      | none => simpa [found] using inductionHypothesis.cons _
      | some address => simpa [found] using inductionHypothesis
  exact ((List.mergeSort_perm _ _).map _).nodup_iff.mpr (apart.sublist (keys _))

end DeviceCache

namespace Prober

open DeviceCache

variable (reach : ProbeTarget → ProbeOutcome)

/-! ## One family -/

/-- The address of a record in a family answers after a latency. -/
def Answers (family : Family) (record : PeerRecord) (latency : Nat) : Prop :=
  ∃ address, tunnelAddress? family record = some address ∧
    (reach ⟨record.publicKey, address⟩).result = .ok latency

/-- What the probe of a record's address in a family shows; without an address it shows nothing. -/
def shown? (family : Family) (record : PeerRecord) : Option Health :=
  (tunnelAddress? family record).map fun address => (reach ⟨record.publicKey, address⟩).health

theorem answers_unique {family : Family} {record : PeerRecord} {latency other : Nat}
    (one : Answers reach family record latency) (two : Answers reach family record other) :
    latency = other := by
  obtain ⟨address, found, answered⟩ := one
  obtain ⟨same, again, answeredAgain⟩ := two
  obtain rfl : address = same := Option.some.inj (found.symm.trans again)
  rw [answered] at answeredAgain
  exact Except.ok.inj answeredAgain

theorem shown?_of_answers (family : Family) (record : PeerRecord) (latency : Nat)
    (answers : Answers reach family record latency) :
    shown? reach family record = some (.answered latency) := by
  obtain ⟨address, found, answered⟩ := answers
  rw [shown?, found, Option.map_some, ProbeOutcome.health, answered]

/-- An address that does not answer shows silence, and no address shows nothing. -/
theorem shown?_of_silent (family : Family) (record : PeerRecord)
    (silent : ∀ latency, ¬Answers reach family record latency) :
    shown? reach family record = none ∨ shown? reach family record = some .silent := by
  cases found : tunnelAddress? family record with
  | none => exact Or.inl (by rw [shown?, found, Option.map_none])
  | some address =>
    right
    rw [shown?, found, Option.map_some, ProbeOutcome.health]
    cases came : (reach ⟨record.publicKey, address⟩).result with
    | ok latency => exact absurd ⟨address, found, came⟩ (silent latency)
    | error failure => rfl

section Family

variable (cache : DeviceCache) (apart : cache.KeysApart) (size start : Nat) (family : Family)

include apart in
/-- The probes of a family leave a key what the address of its entry shows. -/
theorem get?_family_iff (key : PublicKey) (health : Health) :
    (probeAll reach size start (cache.probeTargets family)).results.get? key = some health ↔
      ∃ entry ∈ cache.snapshot.values, entry.record.publicKey = key ∧
        shown? reach family entry.record = some health := by
  have found (target : ProbeTarget) (member : target ∈ cache.probeTargets family) :=
    get?_probeAll_of_mem reach size start _ (probeTargets_keys_nodup cache apart family) target
      member
  constructor
  · intro known
    have probed := (contains_probeAll_iff reach size start (cache.probeTargets family) key).mp
      ((Table.contains_iff _ key).mpr ⟨health, known⟩)
    obtain ⟨target, member, rfl⟩ := probed
    rw [found target member] at known
    obtain ⟨entry, among, address, has, rfl⟩ := (mem_probeTargets_iff cache family target).mp member
    exact ⟨entry, among, rfl, by rw [shown?, has, Option.map_some, known]⟩
  · rintro ⟨entry, among, rfl, known⟩
    obtain ⟨address, has, rfl⟩ := Option.map_eq_some_iff.mp known
    exact found _ ((mem_probeTargets_iff cache family _).mpr ⟨entry, among, address, has, rfl⟩)

/-- The probes of a family have a result for the keys of the entries with an address in it. -/
theorem contains_family_iff (key : PublicKey) :
    (probeAll reach size start (cache.probeTargets family)).results.contains key = true ↔
      ∃ entry ∈ cache.snapshot.values, entry.record.publicKey = key ∧
        (tunnelAddress? family entry.record).isSome = true := by
  rw [contains_probeAll_iff]
  constructor
  · rintro ⟨target, member, rfl⟩
    obtain ⟨entry, among, address, has, rfl⟩ := (mem_probeTargets_iff cache family target).mp member
    exact ⟨entry, among, rfl, by rw [has, Option.isSome_some]⟩
  · rintro ⟨entry, among, rfl, has⟩
    obtain ⟨address, has⟩ := Option.isSome_iff_exists.mp has
    exact ⟨_, (mem_probeTargets_iff cache family _).mpr ⟨entry, among, address, has, rfl⟩, rfl⟩

include apart in
theorem get?_family (entry : CacheEntry) (member : entry ∈ cache.snapshot.values) :
    (probeAll reach size start (cache.probeTargets family)).results.get? entry.record.publicKey =
      shown? reach family entry.record := by
  apply Option.ext
  intro health
  rw [get?_family_iff reach cache apart]
  constructor
  · rintro ⟨other, among, same, known⟩
    obtain rfl : other = entry := List.inj_on_of_nodup_map apart among member same
    exact known
  · intro known
    exact ⟨entry, member, rfl, known⟩

end Family

/-! ## Both families -/

/-- What one result of the sixth version does to the results so far. -/
def mergeResult (results : Table PublicKey Health) (key : PublicKey) (health : Health) :
    Table PublicKey Health :=
  match results.get? key with
  | some earlier => if earlier.reachable then results else results.insert key health
  | none => results.insert key health

theorem get?_mergeResult (results : Table PublicKey Health) (other : PublicKey) (health : Health)
    (key : PublicKey) :
    (mergeResult results other health).get? key =
      if other = key ∧ ((results.get? key).any Health.reachable) = false then some health
      else results.get? key := by
  unfold mergeResult
  by_cases same : other = key
  · subst same
    cases known : results.get? other with
    | none => simp
    | some earlier => cases answered : earlier.reachable <;> simp [answered, known]
  · have different : key ≠ other := Ne.symm same
    have kept : ∀ value, (results.insert other value).get? key = results.get? key := fun value =>
      Table.get?_insert_other results other key value different
    cases results.get? other with
    | none => simp [same, kept]
    | some earlier => cases answered : earlier.reachable <;> simp [same, kept, answered]

/-- A result of the sixth version counts where the fourth has none or did not answer. -/
theorem get?_mergeFamilies (v4 v6 : Table PublicKey Health) (key : PublicKey) :
    (mergeFamilies v4 v6).get? key =
      if (v4.get? key).any Health.reachable then v4.get? key
      else (v6.get? key).or (v4.get? key) := by
  obtain ⟨pairs, apart⟩ := v6
  have folded (results : Table PublicKey Health) :
      (pairs.foldl (fun results pair => mergeResult results pair.1 pair.2) results).get? key =
        if (results.get? key).any Health.reachable then results.get? key
        else (Table.find? key pairs).or (results.get? key) := by
    induction pairs generalizing results with
    | nil => simp [Table.find?]
    | cons pair rest inductionHypothesis =>
      obtain ⟨other, health⟩ := pair
      obtain ⟨fresh, restApart⟩ := List.nodup_cons.mp apart
      rw [List.foldl_cons, inductionHypothesis restApart, get?_mergeResult]
      by_cases same : other = key
      · subst same
        have last : Table.find? other rest = none := Table.find?_eq_none rest other fresh
        cases (results.get? other).any Health.reachable <;> simp [last, Table.find?]
      · simp [same, Table.find?]
  exact folded v4

theorem contains_mergeFamilies (v4 v6 : Table PublicKey Health) (key : PublicKey) :
    (mergeFamilies v4 v6).contains key = true ↔
      v4.contains key = true ∨ v6.contains key = true := by
  simp only [Table.contains, get?_mergeFamilies]
  cases v4.get? key with
  | none => simp
  | some health => cases v6.get? key <;> by_cases answered : health.reachable <;> simp [answered]

/-- The health of a device after a cycle: one address that answers is enough, and the fourth version
goes before the sixth. -/
structure Merges (record : PeerRecord) (health : Health) : Prop where
  reachable_iff : health.reachable = true ↔ ∃ family latency, Answers reach family record latency
  latency_v4 : ∀ latency, Answers reach .v4 record latency → health.latency = some latency
  latency_v6 : (∀ latency, ¬Answers reach .v4 record latency) →
    ∀ latency, health.latency = some latency ↔ Answers reach .v6 record latency

theorem merges_v4 (record : PeerRecord) (latency : Nat)
    (answers : Answers reach .v4 record latency) : Merges reach record (.answered latency) where
  reachable_iff := iff_of_true rfl ⟨.v4, latency, answers⟩
  latency_v4 := by
    intro other answersToo
    rw [answers_unique reach answers answersToo]
    rfl
  latency_v6 := fun silent => absurd answers (silent latency)

theorem merges_v6 (record : PeerRecord) (latency : Nat)
    (silent : ∀ latency, ¬Answers reach .v4 record latency)
    (answers : Answers reach .v6 record latency) : Merges reach record (.answered latency) where
  reachable_iff := iff_of_true rfl ⟨.v6, latency, answers⟩
  latency_v4 := fun other answersV4 => absurd answersV4 (silent other)
  latency_v6 := by
    intro _ other
    constructor
    · rintro ⟨rfl⟩
      exact answers
    · intro answersToo
      rw [answers_unique reach answers answersToo]
      rfl

theorem merges_silent (record : PeerRecord)
    (silent : ∀ family latency, ¬Answers reach family record latency) :
    Merges reach record .silent where
  reachable_iff := by
    refine iff_of_false Bool.false_ne_true ?_
    rintro ⟨family, latency, answers⟩
    exact silent family latency answers
  latency_v4 := fun latency answers => absurd answers (silent .v4 latency)
  latency_v6 := fun _ latency => iff_of_false nofun (silent .v6 latency)

section Cycle

variable (cache : DeviceCache) (apart : cache.KeysApart) (size start : Nat)

include apart in
/-- What a cycle leaves of an entry with an address. -/
theorem merges_sweepCycle (entry : CacheEntry) (member : entry ∈ cache.snapshot.values)
    (health : Health)
    (known : (sweepCycle reach size start cache).results.get? entry.record.publicKey =
      some health) : Merges reach entry.record health := by
  rw [sweepCycle, get?_mergeFamilies, get?_family reach cache apart _ _ _ entry member,
    get?_family reach cache apart _ _ _ entry member] at known
  by_cases answersV4 : ∃ latency, Answers reach .v4 entry.record latency
  · obtain ⟨latency, answers⟩ := answersV4
    rw [shown?_of_answers reach .v4 entry.record latency answers] at known
    obtain rfl : Health.answered latency = health := Option.some.inj known
    exact merges_v4 reach entry.record latency answers
  have silentV4 : ∀ latency, ¬Answers reach .v4 entry.record latency := not_exists.mp answersV4
  have shownV4 := shown?_of_silent reach .v4 entry.record silentV4
  by_cases answersV6 : ∃ latency, Answers reach .v6 entry.record latency
  · obtain ⟨latency, answers⟩ := answersV6
    have decides : health = .answered latency := by
      rw [shown?_of_answers reach .v6 entry.record latency answers] at known
      rcases shownV4 with shown | shown <;> rw [shown] at known <;>
        exact (Option.some.inj known).symm
    rw [decides]
    exact merges_v6 reach entry.record latency silentV4 answers
  have silentV6 : ∀ latency, ¬Answers reach .v6 entry.record latency := not_exists.mp answersV6
  have decides : health = .silent := by
    rcases shownV4 with shownV4 | shownV4 <;>
      rcases shown?_of_silent reach .v6 entry.record silentV6 with shownV6 | shownV6 <;>
        rw [shownV4, shownV6] at known <;> cases known <;> rfl
  rw [decides]
  apply merges_silent
  rintro (_ | _)
  · exact silentV4
  · exact silentV6

/-- A cycle has a result for the keys of the entries with an address. -/
theorem contains_sweepCycle_iff (key : PublicKey) :
    (sweepCycle reach size start cache).results.contains key = true ↔
      ∃ entry ∈ cache.snapshot.values, entry.record.publicKey = key ∧
        (entry.record.tunnelV4.isSome = true ∨ entry.record.tunnelV6.isSome = true) := by
  rw [sweepCycle, contains_mergeFamilies, contains_family_iff, contains_family_iff]
  simp only [tunnelAddress?, Option.isSome_map]
  constructor
  · rintro (⟨entry, member, own, has⟩ | ⟨entry, member, own, has⟩)
    · exact ⟨entry, member, own, Or.inl has⟩
    · exact ⟨entry, member, own, Or.inr has⟩
  · rintro ⟨entry, member, own, has | has⟩
    · exact Or.inl ⟨entry, member, own, has⟩
    · exact Or.inr ⟨entry, member, own, has⟩

end Cycle

/-- For every cache whose entries have distinct keys, every batch size and whatever the probes come
to: a cycle of a node that is no relay has results for the keys of the entries with an address,
each reachable if one of its addresses answered. Recorded in the cache as it is by then, they are
the health of the keys of its entries, and nothing else changes. A relay sends no probe and
changes nothing. -/
theorem cycle_merges (cache : DeviceCache) (apart : cache.KeysApart) (size start : Nat) :
    let cycle := probeCycle reach size start false cache
    (∀ key, cycle.1.results.contains key = true ↔
      ∃ entry ∈ cache.snapshot.values, entry.record.publicKey = key ∧
        (entry.record.tunnelV4.isSome = true ∨ entry.record.tunnelV6.isSome = true)) ∧
    (∀ entry ∈ cache.snapshot.values, ∀ health,
      cycle.1.results.get? entry.record.publicKey = some health →
        Merges reach entry.record health) ∧
    (∀ later : DeviceCache,
      (later.recordHealth cycle.1.results).snapshot = later.snapshot ∧
      (∀ key, cycle.1.results.contains key = true → HasKey later.snapshot key →
        (later.recordHealth cycle.1.results).health.get? key = cycle.1.results.get? key) ∧
      ∀ key, ¬(cycle.1.results.contains key = true ∧ HasKey later.snapshot key) →
        (later.recordHealth cycle.1.results).health.get? key = later.health.get? key) ∧
    cycle.2 = cache.recordHealth cycle.1.results ∧
    let relayed := probeCycle reach size start true cache
    relayed.1.calls = [] ∧ relayed.1.results = Table.empty ∧ relayed.2 = cache := by
  intro cycle
  refine ⟨contains_sweepCycle_iff reach cache size start,
    merges_sweepCycle reach cache apart size start, ?_, rfl, rfl, rfl, rfl⟩
  intro later
  refine ⟨rfl, ?_, ?_⟩
  · intro key probed held
    obtain ⟨health, known⟩ := (Table.contains_iff _ key).mp probed
    rw [recordHealth, get?_insertHealth, if_pos ((holdsKey_iff _ key).mpr held), known,
      Option.some_or]
  · intro key other
    rw [recordHealth, get?_insertHealth]
    split
    · rename_i held
      have unprobed : cycle.1.results.get? key = none := by
        by_contra known
        obtain ⟨health, known⟩ := Option.ne_none_iff_exists'.mp known
        exact other ⟨(Table.contains_iff _ key).mpr ⟨health, known⟩, (holdsKey_iff _ key).mp held⟩
      rw [unprobed, Option.none_or]
    · rfl

end Prober

namespace Sample

/-- A device with tunnel addresses. -/
def addressed (number : UInt8) (tunnelV4 : Option (BitVec 32)) (tunnelV6 : Option (BitVec 128)) :
    CacheEntry :=
  ⟨{ hidden number with tunnelV4, tunnelV6 }, none, none, []⟩

/-- A device with both addresses, one with either and one with none. -/
def dualCache : DeviceCache :=
  { snapshot := Table.ofList [(⟨1⟩, addressed 1 (some 1) (some 1)),
      (⟨2⟩, addressed 2 (some 2) none), (⟨3⟩, addressed 3 none (some 3)),
      (⟨4⟩, addressed 4 none none)] }

/-- Addresses of the sixth version answer and those of the fourth do not. -/
def answersV6 (target : ProbeTarget) : ProbeOutcome :=
  match target.address with
  | .v4 _ => ⟨1200, .error .timeout⟩
  | .v6 _ => ⟨5, .ok 2000000⟩

end Sample

namespace Prober

/-- The device with both addresses is reachable at the one that answers; the one without an address
has no result; and a device that has left by the time of the recording gets no health. -/
theorem cycle_merges_dualCache :
    let results := (probeCycle Sample.answersV6 1 0 false Sample.dualCache).1.results
    Sample.dualCache.KeysApart ∧
      (∃ health, results.get? (Sample.key 1) = some health ∧ health.reachable = true ∧
        health.latency = some 2000000) ∧
      results.contains (Sample.key 4) = false ∧
      (DeviceCache.recordHealth results {}).health.get? (Sample.key 1) = none := by
  have apart : Sample.dualCache.KeysApart := by unfold DeviceCache.KeysApart; decide +kernel
  obtain ⟨contained, merged, recorded, _⟩ :=
    cycle_merges Sample.answersV6 Sample.dualCache apart 1 0
  have silent : ∀ latency, ¬Answers Sample.answersV6 .v4
      (Sample.addressed 1 (some 1) (some 1)).record latency := by
    rintro latency ⟨address, ⟨⟩, ⟨⟩⟩
  have answers : Answers Sample.answersV6 .v6
      (Sample.addressed 1 (some 1) (some 1)).record 2000000 := ⟨.v6 1, rfl, rfl⟩
  refine ⟨apart, ?reached, ?unaddressed, ?departed⟩
  case reached =>
    obtain ⟨health, known⟩ := (Table.contains_iff _ _).mp
      ((contained (Sample.key 1)).mpr (by decide +kernel))
    have merges := merged (Sample.addressed 1 (some 1) (some 1)) (by decide +kernel) health known
    exact ⟨health, known, merges.reachable_iff.mpr ⟨.v6, 2000000, answers⟩,
      (merges.latency_v6 silent 2000000).mpr answers⟩
  case unaddressed =>
    rw [Bool.eq_false_iff, Ne, contained]
    decide +kernel
  case departed =>
    rw [(recorded {}).2.2 (Sample.key 1) fun ⟨_, _, _, found, _⟩ => nomatch found]
    rfl

end Prober

end MeshNode
