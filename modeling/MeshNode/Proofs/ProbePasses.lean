import Mathlib.Data.List.Induction
import MeshNode.Proofs.Histories
import MeshNode.Proofs.ProbeCycles

/-!
# Which pass decides

A cycle and a probe of one family write the same health, but they look at different addresses of a
device: the cycle at both, the other at one. Each pass decides the health of the devices that have
an address it looks at, by the answers of these addresses alone, and the last such pass counts.

So a device with two addresses, one of which answers, is found again by every cycle, and condemned
by a probe of the family in which its address is silent. The same goes for the relays, and for the
question whether one of them is healthy.
-/

namespace MeshNode

/-- One pass over the peers, with its batch size and its start. -/
inductive ProbePass where
  | cycle (size start : Nat)
  | single (family : Family) (size start : Nat)
  deriving DecidableEq, Repr

namespace ProbePass

/-- The families whose addresses a pass probes. -/
def Covers : ProbePass → Family → Prop
  | .cycle _ _, _ => True
  | .single family _ _, other => other = family

/-- A pass probes an address of a record. -/
def Probes (pass : ProbePass) (record : PeerRecord) : Prop :=
  ∃ family, pass.Covers family ∧ (DeviceCache.tunnelAddress? family record).isSome = true

/-- An address that a pass probes answers. -/
def Finds (reach : ProbeTarget → ProbeOutcome) (pass : ProbePass) (record : PeerRecord) : Prop :=
  ∃ family latency, pass.Covers family ∧ Prober.Answers reach family record latency

end ProbePass

namespace DeviceCache

open Prober

variable (reach : ProbeTarget → ProbeOutcome) (cache : DeviceCache)

/-- The cache after a pass of a node that is no relay. -/
def passed : ProbePass → DeviceCache
  | .cycle size start => (probeCycle reach size start false cache).2
  | .single family size start => (probeFamily reach size start family false cache).2

/-- The cache after any number of passes. -/
def passedAll (passes : List ProbePass) : DeviceCache := passes.foldl (passed reach) cache

/-- The health of a record was recorded, as reachable or not. -/
def Recorded (record : PeerRecord) (reachable : Bool) : Prop :=
  ∃ health, cache.health.get? record.publicKey = some health ∧ health.reachable = reachable

theorem passedAll_append (passes : List ProbePass) (pass : ProbePass) :
    cache.passedAll reach (passes ++ [pass]) =
      (cache.passedAll reach passes).passed reach pass := by
  rw [passedAll, List.foldl_append, List.foldl_cons, List.foldl_nil, ← passedAll]

@[simp] theorem snapshot_passed (pass : ProbePass) :
    (cache.passed reach pass).snapshot = cache.snapshot := by
  cases pass <;> rfl

@[simp] theorem snapshot_passedAll (passes : List ProbePass) :
    (cache.passedAll reach passes).snapshot = cache.snapshot := by
  induction passes using List.reverseRecOn with
  | nil => rfl
  | append_singleton passes pass inductionHypothesis =>
    rw [passedAll_append, snapshot_passed, inductionHypothesis]

theorem keysApart_passedAll (apart : cache.KeysApart) (passes : List ProbePass) :
    (cache.passedAll reach passes).KeysApart := by
  rwa [KeysApart, snapshot_passedAll]

/-! ## One pass -/

section Pass

variable (apart : cache.KeysApart) (entry : CacheEntry) (member : entry ∈ cache.snapshot.values)

include member in
theorem get?_recordHealth_of_mem (results : Table PublicKey Health) :
    (cache.recordHealth results).health.get? entry.record.publicKey =
      (results.get? entry.record.publicKey).or (cache.health.get? entry.record.publicKey) := by
  have held : holdsKey cache.snapshot entry.record.publicKey = true :=
    List.any_eq_true.mpr ⟨entry, member, by simp⟩
  rw [recordHealth, get?_insertHealth, if_pos held]

/-- The results that a pass records. -/
def resultsOf : ProbePass → Table PublicKey Health
  | .cycle size start => (sweepCycle reach size start cache).results
  | .single family size start => (probeAll reach size start (cache.probeTargets family)).results

theorem passed_eq (pass : ProbePass) :
    cache.passed reach pass = cache.recordHealth (cache.resultsOf reach pass) := by
  cases pass <;> rfl

include apart member in
/-- A pass has a result for the devices that it probes, and by it they are reachable if an address
that it probed answers. -/
theorem resultsOf_of_probes (pass : ProbePass) (probes : pass.Probes entry.record) :
    ∃ health, (cache.resultsOf reach pass).get? entry.record.publicKey = some health ∧
      (health.reachable = true ↔ pass.Finds reach entry.record) := by
  obtain ⟨family, covers, has⟩ := probes
  cases pass with
  | cycle size start =>
    have given : entry.record.tunnelV4.isSome = true ∨ entry.record.tunnelV6.isSome = true := by
      cases family
      · exact Or.inl (by simpa [tunnelAddress?] using has)
      · exact Or.inr (by simpa [tunnelAddress?] using has)
    obtain ⟨health, known⟩ := (Table.contains_iff _ _).mp
      ((contains_sweepCycle_iff reach cache size start entry.record.publicKey).mpr
        ⟨entry, member, rfl, given⟩)
    refine ⟨health, known, ?_⟩
    rw [(merges_sweepCycle reach cache apart size start entry member health known).reachable_iff]
    simp [ProbePass.Finds, ProbePass.Covers]
  | single probed size start =>
    obtain rfl : family = probed := covers
    have recorded := get?_family reach cache apart size start family entry member
    by_cases answered : ∃ latency, Answers reach family entry.record latency
    · obtain ⟨latency, answers⟩ := answered
      rw [shown?_of_answers reach family entry.record latency answers] at recorded
      exact ⟨_, recorded, iff_of_true rfl ⟨family, latency, rfl, answers⟩⟩
    · have silent : shown? reach family entry.record = some .silent := by
        refine (shown?_of_silent reach family entry.record (not_exists.mp answered)).resolve_left ?_
        rw [shown?, Option.map_eq_none_iff]
        exact Option.isSome_iff_ne_none.mp has
      rw [silent] at recorded
      refine ⟨_, recorded, iff_of_false Bool.false_ne_true ?_⟩
      rintro ⟨_, latency, rfl, answers⟩
      exact answered ⟨latency, answers⟩

include apart member in
/-- A pass has no result for a device that it does not probe. -/
theorem resultsOf_of_not_probes (pass : ProbePass) (spared : ¬ pass.Probes entry.record) :
    (cache.resultsOf reach pass).get? entry.record.publicKey = none := by
  have unaddressed : ∀ family, pass.Covers family → tunnelAddress? family entry.record = none := by
    intro family covers
    by_contra has
    exact spared ⟨family, covers, Option.isSome_iff_ne_none.mpr has⟩
  have unshown : ∀ family, pass.Covers family → shown? reach family entry.record = none := by
    intro family covers
    rw [shown?, unaddressed family covers, Option.map_none]
  cases pass with
  | cycle size start =>
    rw [resultsOf, sweepCycle, get?_mergeFamilies, get?_family reach cache apart _ _ _ entry member,
      get?_family reach cache apart _ _ _ entry member, unshown .v4 trivial, unshown .v6 trivial]
    rfl
  | single family size start =>
    exact (get?_family reach cache apart _ _ _ entry member).trans (unshown family rfl)

include apart member in
/-- The health of a device that a pass probes says whether an address that it probed answers. -/
theorem recorded_passed_iff (pass : ProbePass) (probes : pass.Probes entry.record)
    (reachable : Bool) :
    (cache.passed reach pass).Recorded entry.record reachable ↔
      (reachable = true ↔ pass.Finds reach entry.record) := by
  obtain ⟨health, known, found⟩ :=
    cache.resultsOf_of_probes reach apart entry member pass probes
  have recorded : (cache.passed reach pass).health.get? entry.record.publicKey = some health := by
    rw [passed_eq, cache.get?_recordHealth_of_mem entry member, known, Option.some_or]
  rw [Recorded, ← found]
  constructor
  · rintro ⟨same, again, rfl⟩
    obtain rfl : health = same := Option.some.inj (recorded.symm.trans again)
    rfl
  · intro same
    exact ⟨health, recorded, (Bool.eq_iff_iff.mpr same).symm⟩

include apart member in
/-- A device that a pass does not probe keeps its health. -/
theorem get?_passed_of_not_probes (pass : ProbePass) (spared : ¬ pass.Probes entry.record) :
    (cache.passed reach pass).health.get? entry.record.publicKey =
      cache.health.get? entry.record.publicKey := by
  rw [passed_eq, cache.get?_recordHealth_of_mem entry member,
    cache.resultsOf_of_not_probes reach apart entry member pass spared, Option.none_or]

end Pass

/-! ## Any number of passes -/

section Passes

variable (apart : cache.KeysApart) (entry : CacheEntry) (member : entry ∈ cache.snapshot.values)

include apart member in
/-- The last pass that probed a device decides its health; before the first one it is as it was. -/
theorem recorded_passedAll_iff (passes : List ProbePass) (reachable : Bool) :
    (cache.passedAll reach passes).Recorded entry.record reachable ↔
      (∃ earlier pass later, passes = earlier ++ pass :: later ∧ pass.Probes entry.record ∧
        (∀ other ∈ later, ¬ other.Probes entry.record) ∧
        (reachable = true ↔ pass.Finds reach entry.record)) ∨
      (∀ pass ∈ passes, ¬ pass.Probes entry.record) ∧ cache.Recorded entry.record reachable := by
  induction passes using List.reverseRecOn with
  | nil => simp [passedAll]
  | append_singleton passes last inductionHypothesis =>
    have apartStill := cache.keysApart_passedAll reach apart passes
    have memberStill : entry ∈ (cache.passedAll reach passes).snapshot.values := by
      rwa [snapshot_passedAll]
    rw [passedAll_append]
    simp only [exists_split_append_iff, List.forall_mem_append, List.forall_mem_singleton]
    by_cases probes : last.Probes entry.record
    · rw [recorded_passed_iff reach _ apartStill entry memberStill last probes]
      simp [probes]
    · rw [Recorded, get?_passed_of_not_probes reach _ apartStill entry memberStill last probes,
        ← Recorded, inductionHypothesis]
      simp [probes]

end Passes

/-! ## Condemned by one family -/

/-- A relay is healthy unless it was recorded as unreachable. -/
theorem healthyRelay_iff :
    cache.healthyRelay = true ↔ ∃ entry ∈ cache.snapshot.values, entry.record.relay = true ∧
      ¬ cache.Recorded entry.record false := by
  have verdict (record : PeerRecord) :
      ((cache.health.get? record.publicKey).map Health.reachable).getD true = true ↔
        ¬ cache.Recorded record false := by
    unfold Recorded
    cases cache.health.get? record.publicKey <;> simp
  simp only [healthyRelay, relayHealthyAmong, records, List.any_map, List.any_eq_true,
    Function.comp_apply, Bool.and_eq_true, verdict]

/-- For every cache whose entries have distinct keys, every sequence of passes and whatever the
addresses answer: the last pass that probed a device decides its health. A further pass that probes
a device which was found, and of which an address still answers, condemns it exactly if the pass is
one of a single family and the device's address in it is silent. A relay is healthy after the pass
exactly if one is found by it, or is not probed and was not condemned before. -/
theorem pass_condemns_iff (apart : cache.KeysApart) (passes : List ProbePass) (pass : ProbePass) :
    let before := cache.passedAll reach passes
    let later := before.passed reach pass
    (∀ entry ∈ cache.snapshot.values, ∀ reachable,
      before.Recorded entry.record reachable ↔
        (∃ past last rest, passes = past ++ last :: rest ∧ last.Probes entry.record ∧
          (∀ other ∈ rest, ¬ other.Probes entry.record) ∧
          (reachable = true ↔ last.Finds reach entry.record)) ∨
        (∀ other ∈ passes, ¬ other.Probes entry.record) ∧ cache.Recorded entry.record reachable) ∧
    (∀ entry ∈ cache.snapshot.values, pass.Probes entry.record →
      before.Recorded entry.record true →
      (∃ family latency, Answers reach family entry.record latency) →
        (later.Recorded entry.record false ↔ ∃ family size start,
          pass = .single family size start ∧
            ∀ latency, ¬ Answers reach family entry.record latency)) ∧
    (later.healthyRelay = true ↔ ∃ entry ∈ cache.snapshot.values, entry.record.relay = true ∧
      (pass.Probes entry.record → pass.Finds reach entry.record) ∧
      (¬ pass.Probes entry.record → ¬ before.Recorded entry.record false)) := by
  intro before later
  have apartStill : before.KeysApart := cache.keysApart_passedAll reach apart passes
  have sameSnapshot : before.snapshot = cache.snapshot := cache.snapshot_passedAll reach passes
  refine ⟨fun entry member reachable =>
    cache.recorded_passedAll_iff reach apart entry member passes reachable, ?single, ?relays⟩
  case single =>
    rintro entry member probes - ⟨answering, latency, answers⟩
    rw [recorded_passed_iff reach before apartStill entry (sameSnapshot ▸ member) pass probes]
    simp only [Bool.false_eq_true, false_iff]
    cases pass with
    | cycle size start =>
      refine iff_of_false (fun silent => silent ⟨answering, latency, trivial, answers⟩) ?_
      rintro ⟨_, _, _, ⟨⟩, _⟩
    | single family size start => simp [ProbePass.Finds, ProbePass.Covers]
  case relays =>
    rw [healthyRelay_iff, snapshot_passed, sameSnapshot]
    refine exists_congr fun entry => and_congr_right fun member => and_congr_right fun _ => ?_
    by_cases probes : pass.Probes entry.record
    · rw [recorded_passed_iff reach before apartStill entry (sameSnapshot ▸ member) pass probes]
      simp [probes]
    · rw [Recorded, get?_passed_of_not_probes reach before apartStill entry
        (sameSnapshot ▸ member) pass probes, ← Recorded]
      simp [probes]

end DeviceCache

namespace Sample

/-- A relay with both addresses. -/
def dualRelay : DeviceCache :=
  { snapshot := Table.ofList
      [(⟨1⟩, ⟨{ (addressed 1 (some 1) (some 1)).record with relay := true }, none, none, []⟩)] }

/-- Addresses of the fourth version answer and those of the sixth do not. -/
def answersV4 (target : ProbeTarget) : ProbeOutcome :=
  match target.address with
  | .v4 _ => ⟨5, .ok 2000000⟩
  | .v6 _ => ⟨1200, .error .timeout⟩

end Sample

namespace DeviceCache

open Sample

/-- A relay that a cycle finds is condemned by a probe of the family in which it is silent, and with
it the verdict on the relays, while its other address answers. -/
theorem silent_family_condemns_relay :
    let before := dualRelay.passedAll answersV4 [.cycle 10 0]
    let later := before.passed answersV4 (.single .v6 10 0)
    dualRelay.KeysApart ∧
      (answersV4 ⟨key 1, .v4 1⟩).result = .ok 2000000 ∧
      before.health.get? (key 1) = some (.answered 2000000) ∧ before.healthyRelay = true ∧
      later.health.get? (key 1) = some .silent ∧ later.healthyRelay = false := by
  unfold KeysApart
  decide +kernel

/-- The next cycle finds the relay again. -/
theorem pass_condemns_iff_dualRelay :
    dualRelay.KeysApart ∧
      ((dualRelay.passedAll answersV4 [.cycle 10 0, .single .v6 10 0]).passed answersV4
        (.cycle 10 0)).healthyRelay = true := by
  have apart : dualRelay.KeysApart := by unfold KeysApart; decide +kernel
  obtain ⟨-, -, relays⟩ :=
    pass_condemns_iff answersV4 dualRelay apart [.cycle 10 0, .single .v6 10 0] (.cycle 10 0)
  refine ⟨apart, relays.mpr ?_⟩
  let relay : CacheEntry :=
    ⟨{ (addressed 1 (some 1) (some 1)).record with relay := true }, none, none, []⟩
  have probes : (ProbePass.cycle 10 0).Probes relay.record := ⟨.v4, trivial, rfl⟩
  exact ⟨relay, by decide +kernel, rfl, fun _ => ⟨.v4, 2000000, trivial, .v4 1, rfl, rfl⟩,
    fun spared => absurd probes spared⟩

end DeviceCache

end MeshNode
