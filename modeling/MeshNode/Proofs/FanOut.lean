import Mathlib.Data.List.Nodup
import Mathlib.Data.List.Perm.Subperm
import MeshNode.Proofs.ProbeSteps
import MeshNode.Proofs.Runs

/-!
# Probes that run at once

Whatever the order of the steps, no more probes are in flight than a batch has targets, and no probe
starts before all earlier batches have finished: the places that were started lie in batches that
were handed over, and so have finished, or in the one that runs. Every run comes to an end, and by
then each target was probed once.

What is handed over is the front of the list, each target with its own outcome. So the results
depend on the outcomes alone: a key has what the outcome of the last target of the list that
carries it shows, reachable after a latency or not reachable, and where the outcomes are those of a
sweep, so are the results.
-/

namespace MeshNode

namespace ProbeOutcome

/-- What the outcome of a probe says about a peer: one that answered is reachable with its latency,
and one that failed is not reachable and has none. -/
def Shows (outcome : ProbeOutcome) (health : Health) : Prop :=
  (∃ latency, outcome.result = .ok latency ∧ health.reachable = true ∧
      health.latency = some latency) ∨
    ∃ failure, outcome.result = .error failure ∧ health.reachable = false ∧ health.latency = none

theorem health_eq_iff (outcome : ProbeOutcome) (health : Health) :
    outcome.health = health ↔ outcome.Shows health := by
  obtain ⟨delay, latency | failure⟩ := outcome <;> obtain ⟨reachable, shown⟩ := health
  · simp [ProbeOutcome.health, Shows, Health.silent, eq_comm]
  · simp [ProbeOutcome.health, Shows, Health.answered, eq_comm]

end ProbeOutcome

namespace FanOut

open Prober ProbeStep

/-- The probes that were started and have not finished. -/
def inFlight (steps : List ProbeStep) : List Nat :=
  (started steps).filter fun place => !(finished steps).contains place

theorem mem_inFlight_iff (steps : List ProbeStep) (place : Nat) :
    place ∈ inFlight steps ↔ place ∈ started steps ∧ place ∉ finished steps := by
  simp [inFlight]

/-- Each target of some comes with the outcome that the probe of its place finished with. -/
def Gathered (steps : List ProbeStep) (probed : List (ProbeTarget × ProbeOutcome)) : Prop :=
  ∀ index target outcome, probed[index]? = some (target, outcome) →
    .finish index outcome ∈ steps

theorem Gathered.append {steps : List ProbeStep} {probed : List (ProbeTarget × ProbeOutcome)}
    (gathered : Gathered steps probed) (late : List ProbeStep) :
    Gathered (steps ++ late) probed := by
  intro index target outcome found
  exact List.mem_append_left late (gathered index target outcome found)

section Run

variable {size : Nat} {targets : List ProbeTarget}

/-! ## Stages -/

theorem mem_finished_iff (steps : List ProbeStep) (place : Nat) :
    place ∈ finished steps ↔ ∃ outcome, .finish place outcome ∈ steps := by
  simp only [finished, List.mem_filterMap]
  constructor
  · rintro ⟨step, member, finishes⟩
    cases step <;> cases finishes
    exact ⟨_, member⟩
  · rintro ⟨outcome, member⟩
    exact ⟨_, member, rfl⟩

theorem started_append (steps : List ProbeStep) (step : ProbeStep) :
    started (steps ++ [step]) = started steps ++ (starts? step).toList := by
  cases step <;> simp [started, starts?]

theorem finished_append (steps : List ProbeStep) (step : ProbeStep) :
    finished (steps ++ [step]) = finished steps ++ (finishes? step).toList := by
  cases step <;> simp [finished, finishes?]

variable {steps : List ProbeStep} {last : FanOut}
  (run : afterSteps? size targets steps = some last)

include run

/-- A probe waits until it is started. -/
theorem waiting_iff (place : Nat) : last.stage place = .waiting ↔ place ∉ started steps := by
  induction steps, last, run using run_induction with
  | initial => simp [started]
  | start steps fan other _ inductionHypothesis waits above below =>
    by_cases same : place = other
    · simp [same, started_append, starts?]
    · simp [same, started_append, starts?, inductionHypothesis]
  | finish steps fan other outcome _ inductionHypothesis runs =>
    by_cases same : place = other
    · subst same
      have begun : place ∈ started steps := by simpa [runs] using inductionHypothesis
      simp [started_append, begun]
    · simp [same, started_append, starts?, inductionHypothesis]
  | join steps fan batch rest probed _ inductionHypothesis ahead collected =>
    simp [started_append, starts?, inductionHypothesis]

/-- A probe is done with the outcome that it was finished with. -/
theorem done_iff (place : Nat) (outcome : ProbeOutcome) :
    last.stage place = .done outcome ↔ .finish place outcome ∈ steps := by
  induction steps, last, run using run_induction with
  | initial => simp
  | start steps fan other _ inductionHypothesis waits above below =>
    by_cases same : place = other
    · subst same
      have unfinished : .finish place outcome ∉ steps := by simpa [waits] using inductionHypothesis
      simp [unfinished]
    · simp [same, inductionHypothesis]
  | finish steps fan other came _ inductionHypothesis runs =>
    by_cases same : place = other
    · subst same
      have unfinished : .finish place outcome ∉ steps := by simpa [runs] using inductionHypothesis
      simp [unfinished, eq_comm]
    · simp [same, inductionHypothesis]
  | join steps fan batch rest probed _ inductionHypothesis ahead collected =>
    simp [inductionHypothesis]

/-- No probe is started twice. -/
theorem started_nodup : (started steps).Nodup := by
  induction steps, last, run using run_induction with
  | initial => exact List.nodup_nil
  | start steps fan place reached inductionHypothesis waits above below =>
    have fresh : place ∉ started steps := (waiting_iff reached place).mp waits
    rw [started_append, starts?, Option.toList_some, ← List.concat_eq_append]
    exact List.Nodup.concat fresh inductionHypothesis
  | finish => simpa [started_append, starts?]
  | join => simpa [started_append, starts?]

/-- No probe is finished twice. -/
theorem finished_nodup : (finished steps).Nodup := by
  induction steps, last, run using run_induction with
  | initial => exact List.nodup_nil
  | start => simpa [finished_append, finishes?]
  | finish steps fan place outcome reached inductionHypothesis runs =>
    have fresh : place ∉ finished steps := by
      rw [mem_finished_iff]
      rintro ⟨other, member⟩
      have ended := (done_iff reached place other).mpr member
      rw [runs] at ended
      cases ended
    rw [finished_append, finishes?, Option.toList_some, ← List.concat_eq_append]
    exact List.Nodup.concat fresh inductionHypothesis
  | join => simpa [finished_append, finishes?]

/-- Only what was started finishes. -/
theorem started_of_finished (place : Nat) (finishes : place ∈ finished steps) :
    place ∈ started steps := by
  obtain ⟨outcome, member⟩ := (mem_finished_iff steps place).mp finishes
  by_contra unstarted
  have waits := (waiting_iff run place).mpr unstarted
  rw [(done_iff run place outcome).mpr member] at waits
  cases waits

/-- A probe finishes once, with one outcome. -/
theorem outcome_unique {place : Nat} {one other : ProbeOutcome}
    (first : .finish place one ∈ steps) (second : .finish place other ∈ steps) : one = other := by
  have done := (done_iff run place one).mpr first
  rw [(done_iff run place other).mpr second] at done
  exact (ProbeStage.done.inj done).symm

/-! ## Batches -/

/-- Whole batches are handed over, from the front of the list. -/
theorem exists_round : ∃ round, last.joined = min (round * max size 1) targets.length ∧
    last.pending = batches size (targets.drop (round * max size 1)) := by
  induction steps, last, run using run_induction with
  | initial => exact ⟨0, by simp, by simp⟩
  | start steps fan place reached inductionHypothesis => exact inductionHypothesis
  | finish steps fan place outcome reached inductionHypothesis => exact inductionHypothesis
  | join steps fan batch rest probed reached inductionHypothesis ahead collected =>
    obtain ⟨round, joined, pending⟩ := inductionHypothesis
    have more : targets.drop (round * max size 1) ≠ [] := by
      intro ended
      rw [ended, batches_nil, ahead] at pending
      cases pending
    rw [batches_of_ne_nil size _ more, List.drop_drop, ahead] at pending
    obtain ⟨rfl, rfl⟩ := List.cons.inj pending
    refine ⟨round + 1, ?_, by rw [Nat.succ_mul]⟩
    change fan.joined + _ = _
    rw [Nat.succ_mul, joined, List.length_take, List.length_drop]
    omega

/-- Either all targets are handed over, or a whole number of batches is and the next one runs. -/
theorem pending_cases :
    (last.joined = targets.length ∧ last.pending = []) ∨
      ∃ round, last.joined = round * max size 1 ∧ last.joined < targets.length ∧
        last.pending = (targets.drop last.joined).take (max size 1) ::
          batches size (targets.drop (last.joined + max size 1)) := by
  obtain ⟨round, joined, pending⟩ := exists_round run
  by_cases ended : targets.length ≤ round * max size 1
  · left
    exact ⟨by omega, by rw [pending, List.drop_eq_nil_of_le ended, batches_nil]⟩
  · right
    have whole : last.joined = round * max size 1 := by omega
    have more : targets.drop (round * max size 1) ≠ [] := by
      intro none
      exact ended (List.drop_eq_nil_iff.mp none)
    refine ⟨round, whole, by omega, ?_⟩
    rw [pending, batches_of_ne_nil size _ more, List.drop_drop, whole]

/-- The batch that runs is the next piece of the list. -/
theorem front_of_pending {batch : List ProbeTarget} {rest : List (List ProbeTarget)}
    (ahead : last.pending = batch :: rest) :
    last.joined < targets.length ∧ batch = (targets.drop last.joined).take (max size 1) := by
  obtain ⟨_, none⟩ | ⟨round, _, below, pending⟩ := pending_cases run
  · rw [ahead] at none
    cases none
  · rw [ahead] at pending
    exact ⟨below, (List.cons.inj pending).1⟩

/-- The batch that runs is within the list and no longer than the size. -/
theorem limit_le : last.limit ≤ targets.length ∧ last.limit ≤ last.joined + max size 1 := by
  rw [limit]
  obtain ⟨joined, pending⟩ | ⟨round, whole, below, pending⟩ := pending_cases run
  · rw [pending, List.headD_nil, List.length_nil]
    omega
  · rw [pending, List.headD_cons, List.length_take, List.length_drop]
    omega

theorem lt_limit_of_started (place : Nat) (begun : place ∈ started steps) : place < last.limit := by
  induction steps, last, run using run_induction with
  | initial => simp [started] at begun
  | start steps fan other reached inductionHypothesis waits above below =>
    rw [started_append, List.mem_append] at begun
    obtain earlier | now := begun
    · exact inductionHypothesis earlier
    · cases List.mem_singleton.mp now
      exact below
  | finish steps fan other outcome reached inductionHypothesis =>
    exact inductionHypothesis (by simpa [started_append, starts?] using begun)
  | join steps fan batch rest probed reached inductionHypothesis ahead collected =>
    have earlier := inductionHypothesis (by simpa [started_append, starts?] using begun)
    rw [limit, ahead, List.headD_cons] at earlier
    exact Nat.lt_add_right _ earlier

/-! ## Handing over -/

/-- What was handed over is the front of the list, each target with the outcome of its probe. -/
theorem exists_handed : ∃ probed, probed.map Prod.fst = targets.take last.joined ∧
    Gathered steps probed ∧ last.results = enter Table.empty probed := by
  induction steps, last, run using run_induction with
  | initial => exact ⟨[], rfl, by simp [Gathered], rfl⟩
  | start steps fan place reached inductionHypothesis =>
    obtain ⟨probed, targets, gathered, results⟩ := inductionHypothesis
    exact ⟨probed, targets, gathered.append _, results⟩
  | finish steps fan place outcome reached inductionHypothesis =>
    obtain ⟨probed, targets, gathered, results⟩ := inductionHypothesis
    exact ⟨probed, targets, gathered.append _, results⟩
  | join steps fan batch rest probed reached inductionHypothesis ahead collected =>
    obtain ⟨front, handed, gathered, results⟩ := inductionHypothesis
    obtain ⟨batched, finishes⟩ := of_collect? fan.stage fan.joined batch probed collected
    obtain ⟨below, cut⟩ := front_of_pending reached ahead
    have whole : batch = (targets.drop fan.joined).take batch.length :=
      List.prefix_iff_eq_take.mp (cut ▸ List.take_prefix _ _)
    have width : front.length = fan.joined := by
      rw [← List.length_map Prod.fst, handed, List.length_take]
      omega
    refine ⟨front ++ probed, ?_, ?_, by rw [enter_append, results]⟩
    · rw [List.map_append, handed, batched, List.take_add, ← whole]
    · intro index target outcome found
      -- An index behind the front is a place of the batch that was collected.
      by_cases old : index < front.length
      · rw [List.getElem?_append_left old] at found
        exact List.mem_append_left _ (gathered index target outcome found)
      · rw [List.getElem?_append_right (by omega), width] at found
        have done := finishes _ target outcome found
        rw [show fan.joined + (index - fan.joined) = index by omega] at done
        exact List.mem_append_left _ ((done_iff reached index outcome).mp done)

theorem joined_le_length : last.joined ≤ targets.length := by
  obtain ⟨round, joined, -⟩ := exists_round run
  omega

/-- The probes of a batch that was handed over have finished. -/
theorem finished_of_lt_joined (place : Nat) (ended : place < last.joined) :
    place ∈ finished steps := by
  obtain ⟨probed, handed, gathered, -⟩ := exists_handed run
  have width : probed.length = last.joined := by
    rw [← List.length_map Prod.fst, handed, List.length_take]
    exact Nat.min_eq_left (joined_le_length run)
  have found := List.getElem?_eq_getElem (width ▸ ended)
  exact (mem_finished_iff steps place).mpr ⟨_, gathered place _ _ found⟩

/-! ## Probes in flight -/

/-- No more probes run at once than a batch has targets. -/
theorem length_inFlight_le : (inFlight steps).length ≤ max size 1 := by
  have apart : (inFlight steps).Nodup := (started_nodup run).filter _
  have among : inFlight steps ⊆ List.range' last.joined (max size 1) := by
    intro place flies
    obtain ⟨begun, unfinished⟩ := (mem_inFlight_iff steps place).mp flies
    have below := lt_limit_of_started run place begun
    have within := (limit_le run).2
    -- Whatever lies before the batch that runs has finished.
    have above : last.joined ≤ place := by
      by_contra under
      exact unfinished (finished_of_lt_joined run place (by omega))
    rw [List.mem_range'_1]
    omega
  calc (inFlight steps).length
      ≤ (List.range' last.joined (max size 1)).length :=
        (List.subperm_of_subset apart among).length_le
    _ = max size 1 := List.length_range'

/-- A probe that can start is of the batch that runs, so all earlier batches are handed over. -/
theorem lt_joined_of_earlier (place : Nat) (above : last.joined ≤ place)
    (below : place < last.limit) (earlier : Nat)
    (before : earlier / max size 1 < place / max size 1) : earlier < last.joined := by
  have within := limit_le run
  obtain ⟨joined, -⟩ | ⟨round, whole, -, -⟩ := pending_cases run
  · omega
  · have current : place / max size 1 < round + 1 := by
      rw [Nat.div_lt_iff_lt_mul (by omega), Nat.succ_mul]
      omega
    rw [whole, ← Nat.div_lt_iff_lt_mul (by omega)]
    omega

/-- No probe starts before the probes of all earlier batches have finished. -/
theorem finished_before_start (before after : List ProbeStep) (place : Nat)
    (split : steps = before ++ .start place :: after) (earlier : Nat)
    (ahead : earlier / max size 1 < place / max size 1) : earlier ∈ finished before := by
  subst split
  obtain ⟨middle, reached, rest⟩ := (afterSteps?_append size targets before _ last).mp run
  rw [List.foldlM_cons] at rest
  obtain ⟨next, stepped, -⟩ := Option.bind_eq_some_iff.mp rest
  obtain ⟨-, ⟨above, below⟩, -⟩ := (step?_start middle next place).mp stepped
  exact finished_of_lt_joined reached earlier
    (lt_joined_of_earlier reached place above below earlier ahead)

/-! ## The end -/

theorem started_lt (place : Nat) (begun : place ∈ started steps) : place < targets.length :=
  Nat.lt_of_lt_of_le (lt_limit_of_started run place begun) (limit_le run).1

/-- Every step starts a probe, finishes one or hands some over. -/
theorem length_le_counts :
    steps.length ≤ (started steps).length + (finished steps).length + last.joined := by
  induction steps, last, run using run_induction with
  | initial => exact Nat.zero_le _
  | start steps fan place reached inductionHypothesis =>
    simp only [started_append, finished_append, starts?, finishes?, Option.toList_some,
      Option.toList_none, List.length_append, List.length_singleton, List.length_nil]
    omega
  | finish steps fan place outcome reached inductionHypothesis =>
    simp only [started_append, finished_append, starts?, finishes?, Option.toList_some,
      Option.toList_none, List.length_append, List.length_singleton, List.length_nil]
    omega
  | join steps fan batch rest probed reached inductionHypothesis ahead collected =>
    obtain ⟨below, cut⟩ := front_of_pending reached ahead
    have more : 0 < batch.length := by
      rw [cut, List.length_take, List.length_drop]
      omega
    simp only [started_append, finished_append, starts?, finishes?,
      Option.toList_none, List.length_append, List.length_singleton, List.length_nil]
    omega

/-- A probe takes two steps and a batch one, so no run goes on for ever. -/
theorem length_le : steps.length ≤ 3 * targets.length := by
  have counts := length_le_counts run
  have joined := joined_le_length run
  have fits (places : List Nat) (apart : places.Nodup)
      (within : ∀ place ∈ places, place < targets.length) : places.length ≤ targets.length := by
    have among : places ⊆ List.range targets.length := by
      intro place member
      exact List.mem_range.mpr (within place member)
    simpa using (List.subperm_of_subset apart among).length_le
  have starts := fits (started steps) (started_nodup run) (started_lt run)
  have finishes := fits (finished steps) (finished_nodup run) (by
    intro place member
    exact started_lt run place (started_of_finished run place member))
  omega

/-- Whatever the probes come to, every run can be brought to its end. -/
theorem exists_completion (outcomeAt : Nat → ProbeOutcome) :
    ∃ late final, afterSteps? size targets (steps ++ late) = some final ∧ Complete final ∧
      ∀ place outcome, .finish place outcome ∈ late → outcome = outcomeAt place := by
  induction left : 3 * targets.length - steps.length using Nat.strongRecOn
    generalizing steps last with
  | ind left inductionHypothesis =>
    by_cases complete : Complete last
    · exact ⟨[], last, by rwa [List.append_nil], complete, by simp⟩
    · obtain ⟨step, next, stepped, allowed⟩ := exists_step last outcomeAt complete
      have further : afterSteps? size targets (steps ++ [step]) = some next :=
        (afterSteps?_append size targets steps [step] next).mpr ⟨last, run, by simpa using stepped⟩
      have bound := length_le further
      rw [List.length_append, List.length_singleton] at bound
      obtain ⟨late, final, reached, ended, outcomes⟩ := inductionHypothesis _
        (by rw [List.length_append, List.length_singleton]; omega) further rfl
      refine ⟨step :: late, final, by rwa [List.append_assoc] at reached, ended, ?_⟩
      intro place outcome member
      obtain rfl | later := List.mem_cons.mp member
      · exact allowed place outcome rfl
      · exact outcomes place outcome later

/-! ## Results -/

section Complete

variable (complete : Complete last)

include complete

theorem joined_eq_length : last.joined = targets.length := by
  obtain ⟨joined, -⟩ | ⟨_, -, -, pending⟩ := pending_cases run
  · exact joined
  · rw [complete] at pending
    cases pending

theorem mem_finished_iff_lt (place : Nat) : place ∈ finished steps ↔ place < targets.length := by
  constructor
  · intro finishes
    exact started_lt run place (started_of_finished run place finishes)
  · intro below
    rw [← joined_eq_length run complete] at below
    exact finished_of_lt_joined run place below

/-- Each target was probed once. -/
theorem started_perm : (started steps).Perm (List.range targets.length) := by
  rw [List.perm_ext_iff_of_nodup (started_nodup run) List.nodup_range]
  intro place
  rw [List.mem_range]
  constructor
  · exact started_lt run place
  · intro below
    exact started_of_finished run place ((mem_finished_iff_lt run complete place).mpr below)

theorem finished_perm : (finished steps).Perm (List.range targets.length) := by
  rw [List.perm_ext_iff_of_nodup (finished_nodup run) List.nodup_range]
  intro place
  rw [List.mem_range]
  exact mem_finished_iff_lt run complete place

/-- The results are what entering the outcomes gives, in the order of the targets. -/
theorem exists_probed : ∃ probed, probed.map Prod.fst = targets ∧ Gathered steps probed ∧
    last.results = enter Table.empty probed := by
  obtain ⟨probed, handed, gathered, results⟩ := exists_handed run
  rw [joined_eq_length run complete, List.take_length] at handed
  exact ⟨probed, handed, gathered, results⟩

/-- A key has the health that the outcome of the last target that carries it shows. -/
theorem get?_results_iff (key : PublicKey) (health : Health) :
    last.results.get? key = some health ↔
      ∃ earlier target later outcome, targets = earlier ++ target :: later ∧
        target.publicKey = key ∧ .finish earlier.length outcome ∈ steps ∧
        outcome.Shows health ∧ ∀ other ∈ later, other.publicKey ≠ key := by
  obtain ⟨probed, rfl, gathered, results⟩ := exists_probed run complete
  have found (earlier : List (ProbeTarget × ProbeOutcome)) (probe : ProbeTarget × ProbeOutcome)
      (later : List (ProbeTarget × ProbeOutcome)) (split : probed = earlier ++ probe :: later) :
      .finish earlier.length probe.2 ∈ steps := by
    apply gathered earlier.length probe.1
    rw [split, List.getElem?_append_right (Nat.le_refl _), Nat.sub_self]
    rfl
  rw [results, get?_enter_iff]
  constructor
  · rintro ⟨earlier, probe, later, split, ⟨same, shows⟩, others⟩
    refine ⟨earlier.map Prod.fst, probe.1, later.map Prod.fst, probe.2, ?_, same, ?_,
      (probe.2.health_eq_iff health).mp shows, ?_⟩
    · rw [split, List.map_append, List.map_cons]
    · rw [List.length_map]
      exact found earlier probe later split
    · intro other among
      obtain ⟨another, inLater, rfl⟩ := List.mem_map.mp among
      exact others another inLater
  · rintro ⟨_, _, _, outcome, split, same, finishes, shows, others⟩
    obtain ⟨earlier, rest, rfl, rfl, cut⟩ := List.map_eq_append_iff.mp split
    obtain ⟨probe, later, rfl, rfl, rfl⟩ := List.map_eq_cons_iff.mp cut
    rw [List.length_map] at finishes
    have came := outcome_unique run (found earlier probe later rfl) finishes
    have showsThis := (probe.2.health_eq_iff health).mpr (came ▸ shows)
    refine ⟨earlier, probe, later, rfl, ⟨same, showsThis⟩, ?_⟩
    intro other among
    exact others _ (List.mem_map_of_mem among)

/-- The keys with a result are those of the targets. -/
theorem contains_results_iff (key : PublicKey) :
    last.results.contains key = true ↔ ∃ target ∈ targets, target.publicKey = key := by
  obtain ⟨probed, targeted, -, results⟩ := exists_probed run complete
  rw [results, contains_enter_iff, targeted]

/-- The results are settled by the outcomes, whatever the order of the steps was. -/
theorem results_of_gathered (probed : List (ProbeTarget × ProbeOutcome))
    (targeted : probed.map Prod.fst = targets) (gathered : Gathered steps probed) :
    last.results = enter Table.empty probed := by
  obtain ⟨others, same, again, results⟩ := exists_probed run complete
  have length : others.length = probed.length := by
    rw [← List.length_map Prod.fst, same, ← targeted, List.length_map]
  have equal : others = probed := by
    apply List.ext_getElem length
    intro index inOthers inProbed
    have one := again index _ _ (List.getElem?_eq_getElem inOthers)
    have other := gathered index _ _ (List.getElem?_eq_getElem inProbed)
    have firsts := congrArg (fun targets => targets[index]?) (same.trans targeted.symm)
    exact Prod.ext (by simpa [inOthers, inProbed] using firsts) (outcome_unique run one other)
  rw [results, equal]

end Complete

/-- Two complete runs whose probes come to the same have the same results. -/
theorem results_unique (complete : Complete last) (others : List ProbeStep) (final : FanOut)
    (again : afterSteps? size targets others = some final) (ended : Complete final)
    (same : ∀ place outcome, .finish place outcome ∈ others → .finish place outcome ∈ steps) :
    final.results = last.results := by
  obtain ⟨probed, targeted, gathered, results⟩ := exists_probed again ended
  rw [results]
  refine (results_of_gathered run complete probed targeted ?_).symm
  intro index target outcome found
  exact same index outcome (gathered index target outcome found)

/-- The results of a complete run are those of a sweep whose probes come to the same. -/
theorem results_eq_probeAll (complete : Complete last) (reach : ProbeTarget → ProbeOutcome)
    (start : Nat)
    (reached : ∀ place target outcome, targets[place]? = some target →
      .finish place outcome ∈ steps → outcome = reach target) :
    last.results = (probeAll reach size start targets).results := by
  rw [probeAll_results]
  refine results_of_gathered run complete _ (by simp [Function.comp_def]) ?_
  intro index target outcome found
  obtain ⟨_, located, ⟨⟩⟩ := Option.map_eq_some_iff.mp (List.getElem?_map ▸ found)
  have below : index < targets.length := (List.getElem?_eq_some_iff.mp located).1
  obtain ⟨came, member⟩ :=
    (mem_finished_iff steps index).mp ((mem_finished_iff_lt run complete index).mpr below)
  exact reached index target came located member ▸ member

end Run

/-- The batch of a place is the quotient of the place by the size, where a size of zero counts as
one. A prefix of a run is a run, so the bound on the probes in flight holds at every time; and by
the last two lines the results of a complete run are those of the sweep, which calls every target
once, the targets of a batch when those of all earlier batches are over. -/
theorem batches_bound_probes (size : Nat) (targets : List ProbeTarget) (steps : List ProbeStep)
    (last : FanOut) (run : afterSteps? size targets steps = some last) :
    (inFlight steps).length ≤ max size 1 ∧
    (started steps).Nodup ∧ (∀ place ∈ started steps, place < targets.length) ∧
    (∀ before place after, steps = before ++ .start place :: after →
      ∀ earlier, earlier / max size 1 < place / max size 1 → earlier ∈ finished before) ∧
    steps.length ≤ 3 * targets.length ∧
    (∀ outcomeAt : Nat → ProbeOutcome, ∃ late final,
      afterSteps? size targets (steps ++ late) = some final ∧ Complete final ∧
        ∀ place outcome, .finish place outcome ∈ late → outcome = outcomeAt place) ∧
    (Complete last →
      (started steps).Perm (List.range targets.length) ∧
      (finished steps).Perm (List.range targets.length) ∧
      (∀ key, last.results.contains key = true ↔ ∃ target ∈ targets, target.publicKey = key) ∧
      (∀ key health, last.results.get? key = some health ↔
        ∃ earlier target later outcome, targets = earlier ++ target :: later ∧
          target.publicKey = key ∧ .finish earlier.length outcome ∈ steps ∧
          outcome.Shows health ∧ ∀ other ∈ later, other.publicKey ≠ key) ∧
      (∀ others final, afterSteps? size targets others = some final → Complete final →
        (∀ place outcome, .finish place outcome ∈ others → .finish place outcome ∈ steps) →
        final.results = last.results) ∧
      ∀ reach start, (∀ place target outcome, targets[place]? = some target →
          .finish place outcome ∈ steps → outcome = reach target) →
        last.results = (probeAll reach size start targets).results) ∧
    ∀ reach start,
      (probeAll reach size start targets).calls.map ProbeCall.address =
        targets.map ProbeTarget.address ∧
      ∀ earlier place target first call, earlier / max size 1 < place / max size 1 →
        targets[earlier]? = some target →
        (probeAll reach size start targets).calls[earlier]? = some first →
        (probeAll reach size start targets).calls[place]? = some call →
        first.time + (reach target).delay ≤ call.time := by
  refine ⟨length_inFlight_le run, started_nodup run, started_lt run, ?waits, length_le run,
    exists_completion run, ?complete, ?sweep⟩
  case waits =>
    intro before place after split earlier ahead
    exact finished_before_start run before after place split earlier ahead
  case complete =>
    intro complete
    exact ⟨started_perm run complete, finished_perm run complete,
      contains_results_iff run complete, get?_results_iff run complete,
      results_unique run complete, results_eq_probeAll run complete⟩
  case sweep =>
    intro reach start
    refine ⟨probeAll_calls reach size start targets, ?_⟩
    intro earlier place target first call ahead here begun called
    exact probeAll_waits reach size start targets earlier place ahead target here first call begun
      called

end FanOut

namespace Sample

/-- Three targets, the first and the last of one key. -/
def sharedKey : List ProbeTarget := [⟨key 1, .v4 1⟩, ⟨key 2, .v4 2⟩, ⟨key 1, .v4 3⟩]

/-- The probes of the first two targets finish in the other order. -/
def crossedProbes : List ProbeStep :=
  [.start 0, .start 1, .finish 1 ⟨2, .ok 7⟩, .finish 0 ⟨9, .ok 8⟩, .join,
    .start 2, .finish 2 ⟨1, .error .timeout⟩, .join]

end Sample

namespace FanOut

/-- The last target of the key did not answer, and its outcome is the one that stays. -/
theorem batches_bound_probes_crossed :
    ∃ last, afterSteps? 2 Sample.sharedKey Sample.crossedProbes = some last ∧ Complete last ∧
      (ProbeStep.started Sample.crossedProbes).Perm (List.range 3) ∧
      last.results.get? (Sample.key 1) = some .silent := by
  have emptied : (afterSteps? 2 Sample.sharedKey Sample.crossedProbes).map FanOut.pending =
      some [] := by decide +kernel
  obtain ⟨last, run, complete⟩ := Option.map_eq_some_iff.mp emptied
  obtain ⟨-, -, -, -, -, -, ended, -⟩ := batches_bound_probes _ _ _ last run
  obtain ⟨perm, -, -, found, -, -⟩ := ended complete
  have silent : ProbeOutcome.Shows ⟨1, .error .timeout⟩ .silent := Or.inr ⟨.timeout, rfl, rfl, rfl⟩
  refine ⟨last, run, complete, perm, (found (Sample.key 1) .silent).mpr ?_⟩
  exact ⟨Sample.sharedKey.take 2, _, [], ⟨1, .error .timeout⟩, rfl, rfl,
    by simp [Sample.crossedProbes, Sample.sharedKey], silent, nofun⟩

end FanOut

end MeshNode
