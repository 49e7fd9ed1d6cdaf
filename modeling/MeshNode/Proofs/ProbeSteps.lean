import Mathlib.Data.List.Induction
import Mathlib.Logic.Function.Basic
import Mathlib.Tactic.Push
import MeshNode.Proofs.Batches

/-!
# The steps of probes that run at once

All probes of a batch run at once. Each starts at some time and finishes at some later time, and
the starts and finishes of a batch may come in any order. When the last of a batch has finished, the
outcomes are handed over together, in the order of the targets, and the next batch may start.

A step changes the stage of one probe or hands over one batch, so what each of the three steps
keeps holds after every run. While a batch is left, some step can come.
-/

namespace MeshNode

/-- How far the probe of one target is. -/
inductive ProbeStage where
  | waiting
  | underWay
  | done (outcome : ProbeOutcome)

/-- A step of the probes of a list; each is known by the place of its target in the list. -/
inductive ProbeStep where
  | start (place : Nat)
  | finish (place : Nat) (outcome : ProbeOutcome)
  /-- The outcomes of a whole batch are handed over. -/
  | join

namespace ProbeStep

/-- The place that a step starts. -/
def starts? : ProbeStep → Option Nat
  | .start place => some place
  | _ => none

/-- The place that a step finishes. -/
def finishes? : ProbeStep → Option Nat
  | .finish place _ => some place
  | _ => none

/-- The places that were started, in order. -/
def started (steps : List ProbeStep) : List Nat := steps.filterMap starts?

/-- The places that were finished, in order. -/
def finished (steps : List ProbeStep) : List Nat := steps.filterMap finishes?

end ProbeStep

/-- The probes of a list between two steps. -/
structure FanOut where
  stage : Nat → ProbeStage := fun _ => .waiting
  /-- The number of targets in the batches that were handed over. -/
  joined : Nat := 0
  /-- The batches that were not, the one that runs first. -/
  pending : List (List ProbeTarget)
  results : Table PublicKey Health := Table.empty

namespace FanOut

open Prober ProbeStep

/-! ## Steps -/

/-- The outcomes of some targets from a place on, if all of their probes have finished. -/
def collect? (stage : Nat → ProbeStage) :
    (place : Nat) → List ProbeTarget → Option (List (ProbeTarget × ProbeOutcome))
  | _, [] => some []
  | place, target :: rest =>
    match stage place with
    | .done outcome => (collect? stage (place + 1) rest).map ((target, outcome) :: ·)
    | _ => none

/-- The end of the batch that runs. -/
def limit (fan : FanOut) : Nat := fan.joined + (fan.pending.headD []).length

/-- One step: a probe starts while its batch runs, and finishes when it was started; a batch is
handed over when all of its probes have finished. -/
def step? (fan : FanOut) : ProbeStep → Option FanOut
  | .start place =>
    match fan.stage place with
    | .waiting =>
      if fan.joined ≤ place ∧ place < fan.limit then
        some { fan with stage := Function.update fan.stage place .underWay }
      else none
    | _ => none
  | .finish place outcome =>
    match fan.stage place with
    | .underWay => some { fan with stage := Function.update fan.stage place (.done outcome) }
    | _ => none
  | .join =>
    match fan.pending with
    | [] => none
    | batch :: rest =>
      (collect? fan.stage fan.joined batch).map fun probed =>
        { fan with
          joined := fan.joined + batch.length
          pending := rest
          results := enter fan.results probed }

/-- The state that some steps lead to, if they may come in this order. -/
def afterSteps? (size : Nat) (targets : List ProbeTarget) (steps : List ProbeStep) :
    Option FanOut :=
  steps.foldlM step? { pending := batches size targets }

/-- Every batch was handed over. -/
def Complete (fan : FanOut) : Prop := fan.pending = []

theorem step?_start (fan next : FanOut) (place : Nat) :
    fan.step? (.start place) = some next ↔
      fan.stage place = .waiting ∧ (fan.joined ≤ place ∧ place < fan.limit) ∧
        next = { fan with stage := Function.update fan.stage place .underWay } := by
  simp only [step?]
  split <;> simp_all [eq_comm]

theorem step?_finish (fan next : FanOut) (place : Nat) (outcome : ProbeOutcome) :
    fan.step? (.finish place outcome) = some next ↔
      fan.stage place = .underWay ∧
        next = { fan with stage := Function.update fan.stage place (.done outcome) } := by
  simp only [step?]
  split <;> simp_all [eq_comm]

theorem step?_join (fan next : FanOut) :
    fan.step? .join = some next ↔
      ∃ batch rest probed, fan.pending = batch :: rest ∧
        collect? fan.stage fan.joined batch = some probed ∧
        next = { fan with
          joined := fan.joined + batch.length
          pending := rest
          results := enter fan.results probed } := by
  simp only [step?]
  split
  · rename_i none
    simp [none]
  · rename_i batch rest ahead
    simp [ahead, Option.map_eq_some_iff, eq_comm (a := next)]

/-- What is collected belongs to the targets, in their order. -/
theorem of_collect? (stage : Nat → ProbeStage) (place : Nat) (targets : List ProbeTarget)
    (probed : List (ProbeTarget × ProbeOutcome))
    (collected : collect? stage place targets = some probed) :
    probed.map Prod.fst = targets ∧ ∀ index target outcome,
      probed[index]? = some (target, outcome) → stage (place + index) = .done outcome := by
  induction targets generalizing place probed with
  | nil =>
    cases collected
    simp
  | cons target rest inductionHypothesis =>
    rw [collect?] at collected
    split at collected
    · rename_i outcome finishes
      obtain ⟨others, found, rfl⟩ := Option.map_eq_some_iff.mp collected
      obtain ⟨rfl, gathered⟩ := inductionHypothesis (place + 1) others found
      refine ⟨rfl, ?_⟩
      intro index other came located
      cases index with
      | zero =>
        cases located
        exact finishes
      | succ index =>
        rw [← gathered index other came located]
        congr 1
        omega
    · cases collected

/-- Once all probes of some targets have finished, their outcomes can be collected. -/
theorem exists_collect? (stage : Nat → ProbeStage) (place : Nat) (targets : List ProbeTarget)
    (ended : ∀ other, place ≤ other → other < place + targets.length →
      ∃ outcome, stage other = .done outcome) :
    ∃ probed, collect? stage place targets = some probed := by
  induction targets generalizing place with
  | nil => exact ⟨[], rfl⟩
  | cons target rest inductionHypothesis =>
    rw [List.length_cons] at ended
    obtain ⟨outcome, finishes⟩ := ended place (Nat.le_refl place) (by omega)
    obtain ⟨probed, found⟩ := inductionHypothesis (place + 1) (by
      intro other above below
      exact ended other (by omega) (by omega))
    exact ⟨(target, outcome) :: probed, by rw [collect?, finishes, found]; rfl⟩

/-- While a batch is left, some step can come: a probe of the batch starts or finishes, or all have
finished and the batch is handed over. -/
theorem exists_step (fan : FanOut) (outcomeAt : Nat → ProbeOutcome) (left : ¬Complete fan) :
    ∃ step next, fan.step? step = some next ∧
      ∀ place outcome, step = .finish place outcome → outcome = outcomeAt place := by
  obtain ⟨batch, rest, ahead⟩ := List.exists_cons_of_ne_nil left
  by_cases ended : ∀ place, fan.joined ≤ place → place < fan.joined + batch.length →
      ∃ outcome, fan.stage place = .done outcome
  · obtain ⟨probed, collected⟩ := exists_collect? fan.stage fan.joined batch ended
    exact ⟨.join, _, (step?_join _ _).mpr ⟨batch, rest, probed, ahead, collected, rfl⟩, by simp⟩
  · push Not at ended
    obtain ⟨place, above, below, unfinished⟩ := ended
    cases stage : fan.stage place with
    | waiting =>
      have within : place < fan.limit := by rwa [limit, ahead, List.headD_cons]
      exact ⟨.start place, _, (step?_start _ _ _).mpr ⟨stage, ⟨above, within⟩, rfl⟩, by simp⟩
    | underWay =>
      exact ⟨.finish place (outcomeAt place), _, (step?_finish _ _ _ _).mpr ⟨stage, rfl⟩, by
        rintro _ _ ⟨⟩
        rfl⟩
    | done outcome => exact absurd stage (unfinished outcome)

theorem afterSteps?_append (size : Nat) (targets : List ProbeTarget)
    (early late : List ProbeStep) (last : FanOut) :
    afterSteps? size targets (early ++ late) = some last ↔
      ∃ middle, afterSteps? size targets early = some middle ∧
        late.foldlM step? middle = some last := by
  simp [afterSteps?, List.foldlM_append, Option.bind_eq_some_iff]

section Run

variable {size : Nat} {targets : List ProbeTarget}

/-- What holds before the first step and is kept by each step holds after every run. -/
@[elab_as_elim]
theorem run_induction
    {motive : (steps : List ProbeStep) → (last : FanOut) →
      afterSteps? size targets steps = some last → Prop}
    (initial : motive [] { pending := batches size targets } rfl)
    (start : ∀ steps fan place (reached : afterSteps? size targets steps = some fan),
      motive steps fan reached → fan.stage place = .waiting → fan.joined ≤ place →
      place < fan.limit → ∀ next, motive (steps ++ [.start place])
        { fan with stage := Function.update fan.stage place .underWay } next)
    (finish : ∀ steps fan place outcome (reached : afterSteps? size targets steps = some fan),
      motive steps fan reached → fan.stage place = .underWay →
      ∀ next, motive (steps ++ [.finish place outcome])
        { fan with stage := Function.update fan.stage place (.done outcome) } next)
    (join : ∀ steps fan batch rest probed
      (reached : afterSteps? size targets steps = some fan), motive steps fan reached →
      fan.pending = batch :: rest → collect? fan.stage fan.joined batch = some probed →
      ∀ next, motive (steps ++ [.join]) { fan with
        joined := fan.joined + batch.length
        pending := rest
        results := enter fan.results probed } next)
    (steps : List ProbeStep) (last : FanOut) (run : afterSteps? size targets steps = some last) :
    motive steps last run := by
  induction steps using List.reverseRecOn generalizing last with
  | nil =>
    cases run
    exact initial
  | append_singleton steps step inductionHypothesis =>
    obtain ⟨before, reached, stepped⟩ := (afterSteps?_append size targets steps [step] last).mp run
    have stepped : before.step? step = some last := by simpa using stepped
    have earlier := inductionHypothesis before reached
    cases step with
    | start place =>
      obtain ⟨waits, ⟨above, below⟩, rfl⟩ := (step?_start _ _ _).mp stepped
      exact start steps before place reached earlier waits above below run
    | finish place outcome =>
      obtain ⟨runs, rfl⟩ := (step?_finish _ _ _ _).mp stepped
      exact finish steps before place outcome reached earlier runs run
    | join =>
      obtain ⟨batch, rest, probed, ahead, collected, rfl⟩ := (step?_join _ _).mp stepped
      exact join steps before batch rest probed reached earlier ahead collected run

end Run

end FanOut

end MeshNode
