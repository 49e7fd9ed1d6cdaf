import Mathlib.Data.List.Induction
import MeshNode.Prober
import MeshNode.Proofs.Histories
import MeshNode.Proofs.Tables

/-!
# Batches of probes

Cutting a list into batches loses nothing and changes no order: each batch is the next piece of
the list, and only the last may be short. So the results of all batches are what entering the
outcomes of all targets gives, one after another, and a key has the outcome of the last target
that carries it. A batch starts when the slowest probe of the one before is over, so no probe is
called before all probes of earlier batches have come to something.
-/

namespace MeshNode.Prober

/-! ## Pieces of a list -/

section Pieces

variable {α : Type}

@[simp] theorem batches_nil (size : Nat) : batches size ([] : List α) = [] := by rw [batches]

/-- The first batch is as long as the size says, and a size of zero says one. -/
theorem batches_of_ne_nil (size : Nat) (items : List α) (more : items ≠ []) :
    batches size items = items.take (max size 1) :: batches size (items.drop (max size 1)) := by
  obtain ⟨first, rest, rfl⟩ := List.exists_cons_of_ne_nil more
  have width : max size 1 = size - 1 + 1 := by omega
  rw [batches, width, List.take_succ_cons, List.drop_succ_cons]

/-- What holds of a list if it holds of what is left after a batch holds of every list. -/
@[elab_as_elim]
theorem batches_induction (size : Nat) {motive : List α → Prop} (nil : motive [])
    (piece : ∀ items, items ≠ [] → motive (items.drop (max size 1)) → motive items)
    (items : List α) : motive items := by
  induction items using batches.induct size with
  | case1 => exact nil
  | case2 first rest inductionHypothesis =>
    have width : max size 1 = size - 1 + 1 := by omega
    apply piece (first :: rest) (List.cons_ne_nil first rest)
    rwa [width, List.drop_succ_cons]

/-- The batches together are the list. -/
theorem flatten_batches (size : Nat) (items : List α) : (batches size items).flatten = items := by
  induction items using batches_induction size with
  | nil => simp
  | piece items more inductionHypothesis =>
    rw [batches_of_ne_nil size items more, List.flatten_cons, inductionHypothesis,
      List.take_append_drop]

end Pieces

/-! ## Results -/

section Results

variable (results : Table PublicKey Health)

theorem enter_append (early late : List (ProbeTarget × ProbeOutcome)) :
    enter results (early ++ late) = enter (enter results early) late := List.foldl_append

/-- After some outcomes a key has that of the last target that carries it. -/
theorem get?_enter_iff (probed : List (ProbeTarget × ProbeOutcome)) (key : PublicKey)
    (health : Health) :
    (enter Table.empty probed).get? key = some health ↔
      ∃ earlier probe later, probed = earlier ++ probe :: later ∧
        (probe.1.publicKey = key ∧ probe.2.health = health) ∧
        ∀ other ∈ later, other.1.publicKey ≠ key := by
  induction probed using List.reverseRecOn with
  | nil => simp [enter]
  | append_singleton front last inductionHypothesis =>
    have entered : enter Table.empty (front ++ [last]) =
        (enter Table.empty front).insert last.1.publicKey last.2.health :=
      enter_append Table.empty front [last]
    rw [exists_split_append_iff front last (fun _ probe later =>
      (probe.1.publicKey = key ∧ probe.2.health = health) ∧
        ∀ other ∈ later, other.1.publicKey ≠ key), entered, Table.get?_insert]
    simp only [List.forall_mem_append, List.forall_mem_singleton]
    by_cases same : key = last.1.publicKey
    · simp [same]
    · have different : last.1.publicKey ≠ key := Ne.symm same
      rw [if_neg same, inductionHypothesis]
      simp only [different, false_and, false_or, ne_eq, not_false_eq_true, and_true]

/-- Some target of a key leaves the key a result. -/
theorem contains_enter_iff (probed : List (ProbeTarget × ProbeOutcome)) (key : PublicKey) :
    (enter Table.empty probed).contains key = true ↔
      ∃ target ∈ probed.map Prod.fst, target.publicKey = key := by
  induction probed using List.reverseRecOn with
  | nil => simp [enter, Table.contains]
  | append_singleton front last inductionHypothesis =>
    have entered : enter Table.empty (front ++ [last]) =
        (enter Table.empty front).insert last.1.publicKey last.2.health :=
      enter_append Table.empty front [last]
    rw [Table.contains] at inductionHypothesis ⊢
    rw [entered, Table.get?_insert, List.map_append]
    by_cases same : key = last.1.publicKey
    · simp [same]
    · have different : last.1.publicKey ≠ key := Ne.symm same
      rw [if_neg same, inductionHypothesis]
      simp [different, or_and_right, exists_or]

end Results

/-! ## All batches -/

section Sweeps

variable (reach : ProbeTarget → ProbeOutcome)

theorem foldl_probeBatch_results (pieces : List (List ProbeTarget)) (sweep : Sweep) :
    (pieces.foldl (probeBatch reach) sweep).results =
      enter sweep.results (pieces.flatten.map fun target => (target, reach target)) := by
  induction pieces generalizing sweep with
  | nil => rfl
  | cons piece rest inductionHypothesis =>
    rw [List.foldl_cons, inductionHypothesis, List.flatten_cons, List.map_append, enter_append]
    rfl

theorem foldl_probeBatch_calls (pieces : List (List ProbeTarget)) (sweep : Sweep) :
    (pieces.foldl (probeBatch reach) sweep).calls.map ProbeCall.address =
      sweep.calls.map ProbeCall.address ++ pieces.flatten.map ProbeTarget.address := by
  induction pieces generalizing sweep with
  | nil => simp
  | cons piece rest inductionHypothesis =>
    rw [List.foldl_cons, inductionHypothesis, List.flatten_cons, List.map_append]
    simp [probeBatch, Function.comp_def]

theorem le_foldl_max_delay (batch : List ProbeTarget) (longest : Nat) :
    longest ≤ batch.foldl (fun longest target => max longest (reach target).delay) longest ∧
      ∀ target ∈ batch, (reach target).delay ≤
        batch.foldl (fun longest target => max longest (reach target).delay) longest := by
  induction batch generalizing longest with
  | nil => simp
  | cons first rest inductionHypothesis =>
    obtain ⟨kept, bounds⟩ := inductionHypothesis (max longest (reach first).delay)
    rw [List.foldl_cons]
    constructor
    · omega
    · intro target member
      obtain rfl | later := List.mem_cons.mp member
      · omega
      · exact bounds target later

/-- No call is made before the sweep so far is over, and none before the probes of all earlier
batches are. -/
theorem foldl_probeBatch_waits (size : Nat) (items : List ProbeTarget) (sweep : Sweep) :
    ∃ calls, ((batches size items).foldl (probeBatch reach) sweep).calls = sweep.calls ++ calls ∧
      (∀ call ∈ calls, sweep.finished ≤ call.time) ∧
      ∀ earlier place target first call, earlier / max size 1 < place / max size 1 →
        items[earlier]? = some target → calls[earlier]? = some first →
        calls[place]? = some call → first.time + (reach target).delay ≤ call.time := by
  induction items using batches_induction size generalizing sweep with
  | nil => exact ⟨[], by simp⟩
  | piece items more inductionHypothesis =>
    let batch := items.take (max size 1)
    let next := probeBatch reach sweep batch
    obtain ⟨calls, follow, late, waits⟩ := inductionHypothesis next
    have slowest := (le_foldl_max_delay reach batch 0).2
    have ended : next.finished = sweep.finished +
      batch.foldl (fun longest target => max longest (reach target).delay) 0 := rfl
    refine ⟨batch.map (fun target => ⟨sweep.finished, target.address⟩) ++ calls, ?_, ?_, ?_⟩
    · rw [batches_of_ne_nil size items more, List.foldl_cons, follow, ← List.append_assoc]
      rfl
    · intro call member
      obtain now | later := List.mem_append.mp member
      · obtain ⟨target, -, rfl⟩ := List.mem_map.mp now
        exact Nat.le_refl _
      · have := late call later
        omega
    · intro earlier place target first call ahead here begun called
      have within : earlier < items.length := (List.getElem?_eq_some_iff.mp here).1
      have length : batch.length = min (max size 1) items.length := List.length_take
      -- The later call is in a later batch, so only the earlier one can be of this batch.
      have beyond : max size 1 ≤ place := by
        by_contra under
        rw [Nat.div_eq_of_lt (by omega : place < max size 1)] at ahead
        exact Nat.not_lt_zero _ ahead
      rw [List.getElem?_append_right (by rw [List.length_map]; omega), List.length_map] at called
      by_cases inBatch : earlier < max size 1
      · have probed : batch[earlier]? = some target := by
          rw [List.getElem?_take_of_lt inBatch, here]
        rw [List.getElem?_append_left (by rw [List.length_map]; omega), List.getElem?_map,
          probed] at begun
        cases begun
        have came := slowest target (List.mem_of_getElem? probed)
        have follows := late call (List.mem_of_getElem? called)
        change sweep.finished + _ ≤ _
        omega
      · have full : batch.length = max size 1 := by omega
        rw [List.getElem?_append_right (by rw [List.length_map]; omega), List.length_map,
          full] at begun
        rw [full] at called
        apply waits (earlier - max size 1) (place - max size 1) target first call _ _ begun called
        · rw [Nat.div_eq_sub_div (by omega) (by omega : max size 1 ≤ earlier),
            Nat.div_eq_sub_div (by omega) beyond] at ahead
          omega
        · rw [List.getElem?_drop, Nat.add_sub_cancel' (by omega), here]

/-- Batches change nothing in what is entered. -/
theorem probeAll_results (size start : Nat) (targets : List ProbeTarget) :
    (probeAll reach size start targets).results =
      enter Table.empty (targets.map fun target => (target, reach target)) := by
  rw [probeAll, foldl_probeBatch_results, flatten_batches]

/-- Every target is probed once, in the order of the list. -/
theorem probeAll_calls (size start : Nat) (targets : List ProbeTarget) :
    (probeAll reach size start targets).calls.map ProbeCall.address =
      targets.map ProbeTarget.address := by
  rw [probeAll, foldl_probeBatch_calls, flatten_batches]
  rfl

/-- A probe is started when the probes of all earlier batches are over. -/
theorem probeAll_waits (size start : Nat) (targets : List ProbeTarget) (earlier place : Nat)
    (ahead : earlier / max size 1 < place / max size 1) (target : ProbeTarget)
    (here : targets[earlier]? = some target) (first call : ProbeCall)
    (begun : (probeAll reach size start targets).calls[earlier]? = some first)
    (called : (probeAll reach size start targets).calls[place]? = some call) :
    first.time + (reach target).delay ≤ call.time := by
  obtain ⟨calls, made, -, waits⟩ :=
    foldl_probeBatch_waits reach size targets { finished := start }
  rw [probeAll, made] at begun called
  exact waits earlier place target first call ahead here begun called

/-- A target whose key no other target carries leaves its own outcome. -/
theorem get?_probeAll_of_mem (size start : Nat) (targets : List ProbeTarget)
    (apart : (targets.map ProbeTarget.publicKey).Nodup) (target : ProbeTarget)
    (member : target ∈ targets) :
    (probeAll reach size start targets).results.get? target.publicKey =
      some (reach target).health := by
  obtain ⟨earlier, later, rfl⟩ := List.append_of_mem member
  rw [probeAll_results, get?_enter_iff]
  refine ⟨_, (target, reach target), _, by rw [List.map_append, List.map_cons], ⟨rfl, rfl⟩, ?_⟩
  intro other among same
  obtain ⟨another, inLater, rfl⟩ := List.mem_map.mp among
  rw [List.map_append, List.map_cons] at apart
  have fresh := (List.nodup_cons.mp (List.nodup_append.mp apart).2.1).1
  exact fresh (same ▸ List.mem_map_of_mem inLater)

/-- Only a target's key has a result. -/
theorem contains_probeAll_iff (size start : Nat) (targets : List ProbeTarget) (key : PublicKey) :
    (probeAll reach size start targets).results.contains key = true ↔
      ∃ target ∈ targets, target.publicKey = key := by
  rw [probeAll_results, contains_enter_iff, List.map_map]
  simp [Function.comp_def]

end Sweeps

end MeshNode.Prober
