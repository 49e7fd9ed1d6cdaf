import Mathlib.Data.List.Induction
import MeshNode.Proofs.Caches
import MeshNode.Proofs.Histories

/-!
# The health that a history leaves

Two things happen to the cache: its snapshot is replaced, and probe results are
recorded. The main statement reads the health of a key off the history of these events. A
recording counts for a key if it has a result for the key while the snapshot holds it, and
every snapshot since then holds it too. A key has health where some recording counts for
it, and the health is the result of the last one.

A key that left the snapshot starts anew: what was recorded before it left does not count
after it came back. The relays are judged alike just before a replacement, by the records
of the next snapshot, and just after it, by the snapshot itself.
-/

namespace MeshNode

/-- One complete operation on the cache. -/
inductive CacheEvent where
  | replaced (entries : Table Uuid CacheEntry)
  | recorded (results : Table PublicKey Health)

namespace DeviceCache

/-- The cache after one event. -/
def after (cache : DeviceCache) : CacheEvent → DeviceCache
  | .replaced entries => cache.replace entries
  | .recorded results => cache.recordHealth results

/-- The cache that a history leaves of an empty one. -/
def afterAll (events : List CacheEvent) : DeviceCache := events.foldl after {}

/-- An event is a recording with a result for the key of an entry that the snapshot had by then. -/
def Records (earlier : List CacheEvent) (event : CacheEvent) (key : PublicKey)
    (result : Health) : Prop :=
  ∃ results, event = .recorded results ∧ results.get? key = some result ∧
    HasKey (afterAll earlier).snapshot key

/-- Every replacement among some events keeps the key. -/
def KeptThrough (events : List CacheEvent) (key : PublicKey) : Prop :=
  ∀ entries, .replaced entries ∈ events → HasKey entries key

/-- No recording among some events has a result for the key. -/
def UnrecordedThrough (events : List CacheEvent) (key : PublicKey) : Prop :=
  ∀ results, .recorded results ∈ events → results.get? key = none

theorem afterAll_append (events : List CacheEvent) (event : CacheEvent) :
    afterAll (events ++ [event]) = (afterAll events).after event := by
  rw [afterAll, List.foldl_append, List.foldl_cons, List.foldl_nil, ← afterAll]

@[simp] theorem keptThrough_nil (key : PublicKey) : KeptThrough [] key := by simp [KeptThrough]

@[simp] theorem unrecordedThrough_nil (key : PublicKey) : UnrecordedThrough [] key := by
  simp [UnrecordedThrough]

theorem keptThrough_append (events : List CacheEvent) (event : CacheEvent) (key : PublicKey) :
    KeptThrough (events ++ [event]) key ↔ KeptThrough events key ∧
      ∀ entries, event = .replaced entries → holdsKey entries key = true := by
  simp only [KeptThrough, ← holdsKey_iff, List.mem_append, List.mem_singleton, or_imp,
    forall_and, eq_comm]

theorem unrecordedThrough_append (events : List CacheEvent) (event : CacheEvent)
    (key : PublicKey) :
    UnrecordedThrough (events ++ [event]) key ↔ UnrecordedThrough events key ∧
      ∀ results, event = .recorded results → results.get? key = none := by
  simp only [UnrecordedThrough, List.mem_append, List.mem_singleton, or_imp, forall_and, eq_comm]

@[simp] theorem not_records_replaced (earlier : List CacheEvent)
    (entries : Table Uuid CacheEntry) (key : PublicKey) (result : Health) :
    ¬Records earlier (.replaced entries) key result := by simp [Records]

@[simp] theorem records_recorded (earlier : List CacheEvent) (results : Table PublicKey Health)
    (key : PublicKey) (result : Health) :
    Records earlier (.recorded results) key result ↔ results.get? key = some result ∧
      holdsKey (afterAll earlier).snapshot key = true := by simp [Records, holdsKey_iff]

/-- Health is that of keys in the snapshot, after any history. -/
theorem holdsKey_of_afterAll (events : List CacheEvent) (key : PublicKey) (known : Health)
    (found : (afterAll events).health.get? key = some known) :
    holdsKey (afterAll events).snapshot key = true := by
  induction events using List.reverseRecOn generalizing key known with
  | nil => cases found
  | append_singleton history event inductionHypothesis =>
    rw [afterAll_append] at found ⊢
    cases event with
    | replaced entries =>
      simp only [after, replace, get?_pruneHealth] at found ⊢
      split at found
      · assumption
      · cases found
    | recorded results => exact holdsKey_of_insertHealth _ results _ inductionHypothesis _ _ found

/-- The health of a key is the last result that counts for it. -/
theorem get?_health_afterAll_iff (events : List CacheEvent) (key : PublicKey) (result : Health) :
    (afterAll events).health.get? key = some result ↔
      ∃ earlier event later, events = earlier ++ event :: later ∧
        Records earlier event key result ∧ KeptThrough later key ∧
        UnrecordedThrough later key := by
  induction events using List.reverseRecOn generalizing result with
  | nil => simp [afterAll]
  | append_singleton history event inductionHypothesis =>
    simp only [afterAll_append, exists_split_append_iff, keptThrough_append,
      unrecordedThrough_append]
    cases event with
    | replaced entries =>
      by_cases held : holdsKey entries key = true <;>
        simp [after, replace, get?_pruneHealth, held, inductionHypothesis]
    | recorded results =>
      simp only [after, recordHealth, get?_insertHealth]
      by_cases held : holdsKey (afterAll history).snapshot key = true
      · cases given : results.get? key <;> simp [held, given, inductionHypothesis]
      · -- A key outside the snapshot had no health, so nothing in the past counts for it either.
        have unknown : (afterAll history).health.get? key = none := by
          by_contra known
          obtain ⟨known, found⟩ := Option.ne_none_iff_exists'.mp known
          exact held (holdsKey_of_afterAll history key known found)
        have uncounted := (inductionHypothesis result).not.mp (by simp [unknown])
        simp only [unknown, held, records_recorded, and_false, false_and, false_or,
          Bool.false_eq_true, if_false, reduceCtorEq, false_iff]
        rintro ⟨earlier, event, later, split, recorded, ⟨kept, _⟩, last, _⟩
        exact uncounted ⟨earlier, event, later, split, recorded, kept, last⟩

/-- A key has health exactly where some recording counts for it. -/
theorem isSome_health_afterAll_iff (events : List CacheEvent) (key : PublicKey) :
    ((afterAll events).health.get? key).isSome = true ↔
      ∃ earlier event later, events = earlier ++ event :: later ∧
        (∃ result, Records earlier event key result) ∧ KeptThrough later key := by
  induction events using List.reverseRecOn with
  | nil => simp [afterAll]
  | append_singleton history event inductionHypothesis =>
    simp only [afterAll_append, exists_split_append_iff, keptThrough_append]
    cases event with
    | replaced entries =>
      by_cases held : holdsKey entries key = true <;>
        simp [after, replace, get?_pruneHealth, held, inductionHypothesis]
    | recorded results =>
      by_cases held : holdsKey (afterAll history).snapshot key = true <;>
        simp [after, recordHealth, get?_insertHealth, held, inductionHypothesis,
          ← Option.isSome_iff_exists]

/-- After any history of complete operations: health belongs to the keys for which a recording
counts, as the last one has it; recording moves nothing in the snapshot; and the records of the
next snapshot are judged before it is there as they are judged after. -/
theorem health_follows_membership (events : List CacheEvent) :
    (∀ key result, (afterAll events).health.get? key = some result ↔
      ∃ earlier event later, events = earlier ++ event :: later ∧
        Records earlier event key result ∧ KeptThrough later key ∧ UnrecordedThrough later key) ∧
    (∀ key, ((afterAll events).health.get? key).isSome = true ↔
      ∃ earlier event later, events = earlier ++ event :: later ∧
        (∃ result, Records earlier event key result) ∧ KeptThrough later key) ∧
    (∀ results,
      (afterAll (events ++ [.recorded results])).snapshot = (afterAll events).snapshot) ∧
    ∀ entries, (afterAll events).relayHealthyAmong (entries.values.map CacheEntry.record) =
      (afterAll (events ++ [.replaced entries])).healthyRelay := by
  refine ⟨get?_health_afterAll_iff events, isSome_health_afterAll_iff events, fun results => ?_,
    fun entries => ?_⟩
  · rw [afterAll_append]
    rfl
  · have held : ∀ record ∈ entries.values.map CacheEntry.record,
        holdsKey entries record.publicKey = true := by
      intro record member
      obtain ⟨entry, listed, rfl⟩ := List.mem_map.mp member
      exact List.any_eq_true.mpr ⟨entry, listed, beq_self_eq_true _⟩
    rw [afterAll_append]
    exact (relayHealthyAmong_replace (afterAll events) entries _ held).symm

end DeviceCache

end MeshNode
