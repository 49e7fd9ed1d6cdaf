import MeshNode.Proofs.HealthHistory
import MeshNode.Proofs.Runs

/-!
# A replacement beside a recording

The reconciler replaces the snapshot while the prober records results, and each of the two takes
the cache twice. A recording reads the snapshot and later enters the results of the keys that it
saw there; a replacement prunes the health table and later puts the new snapshot in. The steps of
the two may come in any order.

The main statement follows the health of a key through every order of the steps. A key has
health where a recording entered it that had read a snapshot with the key, and every pruning since
holds it. While no replacement is under way, such a key is outside the snapshot exactly if
nothing was pruned since: the recording read the old snapshot and entered its results when the
replacement had pruned already. The next replacement drops the key, unless its entries hold it
again; then what was recorded of the device that left counts for the one that came back.
-/

namespace MeshNode

/-- One step of the reconciler or of the prober, each taken in one go. -/
inductive CacheStep where
  /-- A recording begins: it reads the snapshot. -/
  | read (results : Table PublicKey Health)
  /-- The recording ends: it enters the results of the keys that it read. -/
  | enter
  /-- A replacement begins: it drops the health of the keys outside its entries. -/
  | prune (entries : Table Uuid CacheEntry)
  /-- The replacement ends: its entries are the snapshot. -/
  | swap
  deriving DecidableEq

/-- The cache with what its two users have under way. -/
structure SharedCache where
  cache : DeviceCache := {}
  /-- The snapshot that the recording under way has read, and its results. -/
  recording : Option (Table Uuid CacheEntry × Table PublicKey Health) := none
  /-- The entries of the replacement under way. -/
  replacing : Option (Table Uuid CacheEntry) := none
  deriving DecidableEq

/-- The steps of a complete operation. -/
def CacheEvent.steps : CacheEvent → List CacheStep
  | .replaced entries => [.prune entries, .swap]
  | .recorded results => [.read results, .enter]

namespace SharedCache

/-- One step; each user begins an operation only when its last one has ended. -/
def step? (shared : SharedCache) : CacheStep → Option SharedCache
  | .read results =>
    match shared.recording with
    | none => some { shared with recording := some (shared.cache.snapshot, results) }
    | some _ => none
  | .enter =>
    match shared.recording with
    | none => none
    | some (seen, results) =>
      some { shared with
        cache.health := DeviceCache.insertHealth seen results shared.cache.health
        recording := none }
  | .prune entries =>
    match shared.replacing with
    | none =>
      some { shared with
        cache.health := DeviceCache.pruneHealth entries shared.cache.health
        replacing := some entries }
    | some _ => none
  | .swap =>
    match shared.replacing with
    | none => none
    | some entries => some { shared with cache.snapshot := entries, replacing := none }

/-- The state that some steps lead to from an empty cache, if they may come in this order. -/
def afterSteps? (steps : List CacheStep) : Option SharedCache := steps.foldlM step? {}

/-- The entries that the snapshot will have when the replacement under way has ended. -/
def entries (shared : SharedCache) : Table Uuid CacheEntry :=
  shared.replacing.getD shared.cache.snapshot

/-- A step is the beginning of a recording that reads a snapshot. -/
def Begins (early : List CacheStep) (step : CacheStep) (seen : Table Uuid CacheEntry)
    (results : Table PublicKey Health) : Prop :=
  step = .read results ∧ ∃ past, afterSteps? early = some past ∧ past.cache.snapshot = seen

/-- A recording of some results is under way that has read a snapshot. -/
def Reading (steps : List CacheStep) (seen : Table Uuid CacheEntry)
    (results : Table PublicKey Health) : Prop :=
  ∃ early step middle, steps = early ++ step :: middle ∧ Begins early step seen results ∧
    .enter ∉ middle

/-- A step is the end of a recording that enters a key that it had read. -/
def Enters (earlier : List CacheStep) (step : CacheStep) (key : PublicKey) : Prop :=
  step = .enter ∧ ∃ seen results, Reading earlier seen results ∧ results.contains key = true ∧
    DeviceCache.HasKey seen key

/-- Every pruning among some steps keeps the key. -/
def KeptThrough (steps : List CacheStep) (key : PublicKey) : Prop :=
  ∀ entries, .prune entries ∈ steps → DeviceCache.HasKey entries key

@[simp] theorem step?_read (shared next : SharedCache) (results : Table PublicKey Health) :
    shared.step? (.read results) = some next ↔ shared.recording = none ∧
      next = { shared with recording := some (shared.cache.snapshot, results) } := by
  simp only [step?]
  split <;> simp_all [eq_comm]

@[simp] theorem step?_enter (shared next : SharedCache) :
    shared.step? .enter = some next ↔ ∃ seen results, shared.recording = some (seen, results) ∧
      next = { shared with
        cache.health := DeviceCache.insertHealth seen results shared.cache.health
        recording := none } := by
  simp only [step?]
  split <;> simp_all [eq_comm]

@[simp] theorem step?_prune (shared next : SharedCache) (entries : Table Uuid CacheEntry) :
    shared.step? (.prune entries) = some next ↔ shared.replacing = none ∧
      next = { shared with
        cache.health := DeviceCache.pruneHealth entries shared.cache.health
        replacing := some entries } := by
  simp only [step?]
  split <;> simp_all [eq_comm]

@[simp] theorem step?_swap (shared next : SharedCache) :
    shared.step? .swap = some next ↔ ∃ entries, shared.replacing = some entries ∧
      next = { shared with cache.snapshot := entries, replacing := none } := by
  simp only [step?]
  split <;> simp_all [eq_comm]

theorem afterSteps?_append (steps : List CacheStep) (step : CacheStep) (last : SharedCache) :
    afterSteps? (steps ++ [step]) = some last ↔
      ∃ before, afterSteps? steps = some before ∧ before.step? step = some last := by
  simp [afterSteps?, List.foldlM_append, Option.bind_eq_some_iff]

/-- Operations that do not overlap are the complete operations. -/
theorem afterSteps?_complete (events : List CacheEvent) :
    afterSteps? (events.flatMap CacheEvent.steps) =
      some { cache := DeviceCache.afterAll events } := by
  induction events using List.reverseRecOn with
  | nil => rfl
  | append_singleton history event inductionHypothesis =>
    rw [afterSteps?] at inductionHypothesis
    rw [List.flatMap_append, afterSteps?, List.foldlM_append, inductionHypothesis,
      DeviceCache.afterAll_append]
    cases event <;> rfl

/-- After one more step a recording is under way if it begins with the step, or was under way and
does not end with it. -/
theorem reading_append (steps : List CacheStep) (step : CacheStep)
    (seen : Table Uuid CacheEntry) (results : Table PublicKey Health) :
    Reading (steps ++ [step]) seen results ↔
      Begins steps step seen results ∨ (step ≠ .enter ∧ Reading steps seen results) := by
  rw [Reading, exists_split_append_iff]
  by_cases ends : step = .enter
  · simp [ends]
  · simp [ends, Ne.symm ends, Reading]

/-- What the recording under way has read is what was there when it began. -/
theorem recording_iff (steps : List CacheStep) (last : SharedCache)
    (run : afterSteps? steps = some last) (seen : Table Uuid CacheEntry)
    (results : Table PublicKey Health) :
    last.recording = some (seen, results) ↔ Reading steps seen results := by
  induction steps using List.reverseRecOn generalizing last with
  | nil =>
    cases run
    simp [Reading]
  | append_singleton history step inductionHypothesis =>
    obtain ⟨before, reached, stepped⟩ := (afterSteps?_append history step last).mp run
    rw [reading_append, ← inductionHypothesis before reached]
    cases step with
    | read given =>
      obtain ⟨free, rfl⟩ := (step?_read _ _ _).mp stepped
      simp [Begins, reached, free, and_comm]
    | enter =>
      obtain ⟨_, _, _, rfl⟩ := (step?_enter _ _).mp stepped
      simp [Begins]
    | prune entries =>
      obtain ⟨_, rfl⟩ := (step?_prune _ _ _).mp stepped
      simp [Begins]
    | swap =>
      obtain ⟨_, _, rfl⟩ := (step?_swap _ _).mp stepped
      simp [Begins]

theorem keptThrough_append (steps : List CacheStep) (step : CacheStep) (key : PublicKey) :
    KeptThrough (steps ++ [step]) key ↔ KeptThrough steps key ∧
      ∀ entries, step = .prune entries → DeviceCache.holdsKey entries key = true := by
  simp only [KeptThrough, ← DeviceCache.holdsKey_iff, List.mem_append, List.mem_singleton, or_imp,
    forall_and, eq_comm]

/-- A key has health where a recording entered it and every pruning since keeps it. -/
theorem isSome_health_iff (steps : List CacheStep) (last : SharedCache)
    (run : afterSteps? steps = some last) (key : PublicKey) :
    (last.cache.health.get? key).isSome = true ↔
      ∃ earlier step later, steps = earlier ++ step :: later ∧ Enters earlier step key ∧
        KeptThrough later key := by
  induction steps using List.reverseRecOn generalizing last with
  | nil =>
    cases run
    simp
  | append_singleton history step inductionHypothesis =>
    obtain ⟨before, reached, stepped⟩ := (afterSteps?_append history step last).mp run
    have earlier := inductionHypothesis before reached
    have now : Enters history step key ↔ step = .enter ∧ ∃ seen results,
        before.recording = some (seen, results) ∧ results.contains key = true ∧
          DeviceCache.holdsKey seen key = true := by
      simp only [Enters, recording_iff history before reached, DeviceCache.holdsKey_iff]
    have fresh : KeptThrough [] key := fun _ impossible => absurd impossible List.not_mem_nil
    simp only [exists_split_append_iff, keptThrough_append, now, fresh]
    cases step with
    | read given =>
      obtain ⟨_, rfl⟩ := (step?_read _ _ _).mp stepped
      simp [earlier]
    | enter =>
      obtain ⟨seen, results, reading, rfl⟩ := (step?_enter _ _).mp stepped
      by_cases held : DeviceCache.holdsKey seen key = true <;>
        simp [DeviceCache.get?_insertHealth, reading, held, Table.contains, earlier]
    | prune entries =>
      obtain ⟨_, rfl⟩ := (step?_prune _ _ _).mp stepped
      by_cases held : DeviceCache.holdsKey entries key = true <;>
        simp [DeviceCache.get?_pruneHealth, held, earlier]
    | swap =>
      obtain ⟨_, _, rfl⟩ := (step?_swap _ _).mp stepped
      simp [earlier]

/-- Only the beginning of a replacement changes what the snapshot has or will have. -/
theorem entries_step? {before last : SharedCache} {step : CacheStep}
    (stepped : before.step? step = some last) :
    step = .prune last.entries ∨
      last.entries = before.entries ∧ ∀ given, step ≠ .prune given := by
  cases step with
  | read results =>
    obtain ⟨_, rfl⟩ := (step?_read _ _ _).mp stepped
    exact Or.inr ⟨rfl, by simp⟩
  | enter =>
    obtain ⟨_, _, _, rfl⟩ := (step?_enter _ _).mp stepped
    exact Or.inr ⟨rfl, by simp⟩
  | prune entries =>
    obtain ⟨_, rfl⟩ := (step?_prune _ _ _).mp stepped
    exact Or.inl rfl
  | swap =>
    obtain ⟨entries, underWay, rfl⟩ := (step?_swap _ _).mp stepped
    exact Or.inr ⟨by simp [SharedCache.entries, underWay], by simp⟩

/-- If there was a pruning among the last steps, then one of them was to what the snapshot has or
will have. -/
theorem prune_entries_mem (steps : List CacheStep) (last : SharedCache)
    (run : afterSteps? steps = some last) (front later : List CacheStep)
    (split : steps = front ++ later) (given : Table Uuid CacheEntry)
    (pruned : .prune given ∈ later) : .prune last.entries ∈ later := by
  induction steps using List.reverseRecOn generalizing last later with
  | nil => simp_all
  | append_singleton history step inductionHypothesis =>
    obtain ⟨before, reached, stepped⟩ := (afterSteps?_append history step last).mp run
    rcases List.eq_nil_or_concat later with rfl | ⟨between, final, rfl⟩
    · cases pruned
    rw [List.concat_eq_append] at split pruned ⊢
    rw [← List.append_assoc] at split
    obtain ⟨earlier, same⟩ := List.append_inj' split rfl
    obtain rfl := List.head_eq_of_cons_eq same
    rcases entries_step? stepped with now | ⟨still, other⟩
    · rw [← now]
      exact List.mem_append_right _ (List.mem_singleton_self _)
    · have given' : .prune given ∈ between := by simpa [Ne.symm (other given)] using pruned
      rw [still]
      exact List.mem_append_left _ (inductionHypothesis before reached between earlier given')

end SharedCache

namespace Sample

/-- A snapshot with one relay. -/
def relayEntries : Table Uuid CacheEntry := Table.ofList [(⟨1⟩, ⟨relay "", none, none, []⟩)]

/-- The relay did not answer its last probe. -/
def silentRelay : Table PublicKey Health := Table.ofList [(key 1, .silent)]

/-- A recording reads the snapshot with the relay and ends when the relay has left. -/
def overtaken : List CacheStep :=
  [.prune relayEntries, .swap, .read silentRelay, .prune Table.empty, .swap, .enter]

end Sample

namespace SharedCache

/-- Whatever the order of the steps: a key has health where a recording entered it and every pruning
since keeps it. While no replacement is under way, it is outside the snapshot exactly if nothing
was pruned since. A replacement that nothing comes between leaves no such key. -/
theorem stray_health_iff (steps : List CacheStep) (last : SharedCache)
    (run : afterSteps? steps = some last) :
    (∀ key, (last.cache.health.get? key).isSome = true ↔
      ∃ earlier step later, steps = earlier ++ step :: later ∧ Enters earlier step key ∧
        KeptThrough later key) ∧
    (last.replacing = none → ∀ key, ¬DeviceCache.HasKey last.cache.snapshot key →
      ((last.cache.health.get? key).isSome = true ↔
        ∃ earlier step later, steps = earlier ++ step :: later ∧ Enters earlier step key ∧
          ∀ entries, .prune entries ∉ later)) ∧
    ∀ entries next, afterSteps? (steps ++ [.prune entries, .swap]) = some next →
      ∀ key, (next.cache.health.get? key).isSome = true →
        DeviceCache.HasKey next.cache.snapshot key := by
  refine ⟨isSome_health_iff steps last run, fun idle key outside => ?_, ?_⟩
  · -- With no replacement under way the snapshot is what was pruned to last.
    have current : last.entries = last.cache.snapshot := by rw [entries, idle, Option.getD_none]
    rw [isSome_health_iff steps last run]
    constructor
    · rintro ⟨earlier, step, later, split, entered, kept⟩
      refine ⟨earlier, step, later, split, entered, fun given pruned => ?_⟩
      rw [List.append_cons] at split
      have held := kept _ (prune_entries_mem steps last run _ later split given pruned)
      exact outside (current ▸ held)
    · rintro ⟨earlier, step, later, split, entered, unpruned⟩
      exact ⟨earlier, step, later, split, entered, fun entries pruned =>
        absurd pruned (unpruned entries)⟩
  · intro entries next complete key known
    rw [List.append_cons, afterSteps?_append] at complete
    obtain ⟨pruned, reached, swapped⟩ := complete
    obtain ⟨before, _, stepped⟩ := (afterSteps?_append steps _ pruned).mp reached
    obtain ⟨_, rfl⟩ := (step?_prune _ _ _).mp stepped
    obtain ⟨_, same, rfl⟩ := (step?_swap _ _).mp swapped
    obtain rfl := Option.some.inj same
    rw [← DeviceCache.holdsKey_iff]
    by_contra outside
    simp [DeviceCache.get?_pruneHealth, outside] at known

/-- The recording that was overtaken left the health of the relay, which the next snapshot with the
relay keeps. -/
theorem overtaken_recording_strays :
    afterSteps? Sample.overtaken = some { cache := ⟨Table.empty, Sample.silentRelay⟩ } ∧
      (∃ earlier step later, Sample.overtaken = earlier ++ step :: later ∧
        Enters earlier step (Sample.key 1) ∧ ∀ entries, .prune entries ∉ later) ∧
      DeviceCache.HasKey Sample.relayEntries (Sample.key 1) := by
  have run : afterSteps? Sample.overtaken =
      some { cache := ⟨Table.empty, Sample.silentRelay⟩ } := by decide +kernel
  have again : afterSteps? (Sample.overtaken ++ [.prune Sample.relayEntries, .swap]) =
      some { cache := ⟨Sample.relayEntries, Sample.silentRelay⟩ } := by decide +kernel
  obtain ⟨_, stray, held⟩ := stray_health_iff Sample.overtaken _ run
  refine ⟨run, ?_, held Sample.relayEntries _ again (Sample.key 1) (by decide +kernel)⟩
  exact (stray rfl (Sample.key 1) (by decide +kernel)).mp (by decide +kernel)

/-- With nothing under way, the health of a relay that left is still there; when the relay is
back, it is taken for unhealthy, as it would not be without a probe. -/
theorem departed_relay_remembered :
    afterSteps? Sample.overtaken = some { cache := ⟨Table.empty, Sample.silentRelay⟩ } ∧
      Sample.silentRelay.get? (Sample.key 1) = some .silent ∧
      ¬DeviceCache.HasKey Table.empty (Sample.key 1) ∧
      afterSteps? (Sample.overtaken ++ [.prune Sample.relayEntries, .swap]) =
        some { cache := ⟨Sample.relayEntries, Sample.silentRelay⟩ } ∧
      DeviceCache.healthyRelay ⟨Sample.relayEntries, Sample.silentRelay⟩ = false ∧
      DeviceCache.healthyRelay ⟨Sample.relayEntries, Table.empty⟩ = true := by
  decide +kernel

end SharedCache

end MeshNode
