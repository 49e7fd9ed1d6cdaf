import MeshNode.Proofs.Ownership

/-!
# Passes in which the changes of some keys are refused

Some keys are struck: their changes are refused, and every other request of a pass is
granted. Nothing is said of how the tunnel refuses, or of what a refused change leaves in
it.

Where that is so on record, a change fails exactly if its key is struck. A pass therefore
reports what it would report without refusals, with the struck keys taken out of what was
configured and removed, and put among the failures, each in its place.
-/

namespace MeshNode

/-- The key whose peer a request changes, if it changes one. -/
def Request.changedKey? : Request → Option PublicKey
  | .configure peer => some peer.publicKey
  | .remove key => some key
  | .routeExists _ => none
  | .addRoute _ => none
  | .deleteRoute _ => none

namespace Change

variable (change : Change)

@[simp] theorem changedKey?_request : change.request.changedKey? = some change.key := by
  cases change <;> rfl

/-- The key that a change configures, if it configures one. -/
def configured? : Change → Option PublicKey
  | .configure peer => some peer.publicKey
  | .remove _ => none

/-- The key that a change removes, if it removes one. -/
def removed? : Change → Option PublicKey
  | .configure _ => none
  | .remove key => some key

/-- The key that is read off a change is spared with the change itself. -/
theorem filter_filterMap_cons (read : Change → Option PublicKey) (struck : PublicKey → Bool)
    (rest : List Change) (own : ∀ key ∈ read change, key = change.key) :
    ((change :: rest).filterMap read).filter (!struck ·) =
      (if struck change.key then [] else (read change).toList) ++
        (rest.filterMap read).filter (!struck ·) := by
  cases found : read change with
  | none => simp [found]
  | some key =>
    rw [List.filterMap_cons_some found, own key found]
    cases hit : struck change.key <;> simp [hit]

end Change

/-- Of the exchanges on record exactly those were refused that change the peer of a struck key. -/
def RefusesJust (struck : PublicKey → Bool) (record : List Exchange) : Prop :=
  ∀ exchange ∈ record, exchange.granted = !exchange.request.changedKey?.any struck

namespace Applier

variable {World : Type} (driver : Driver World) (pass : Pass World) (change : Change)

/-- A change that configures its key reports it as configured, unless it fails. -/
theorem change_configured :
    (pass.change driver change).report.configured =
      pass.report.configured ++
        if (carryOut driver pass.applier pass.world change).1.isSome then []
        else change.configured?.toList := by
  cases change with
  | configure peer =>
    simp only [Pass.change, Pass.configure, carryOut]
    split <;> simp_all [failure?, Change.configured?]
  | remove key =>
    simp only [Pass.change, Pass.remove, carryOut]
    split <;> simp_all [failure?, Change.configured?]

/-- A change that removes its key reports it as removed, unless it fails. -/
theorem change_removed :
    (pass.change driver change).report.removed =
      pass.report.removed ++
        if (carryOut driver pass.applier pass.world change).1.isSome then []
        else change.removed?.toList := by
  cases change with
  | configure peer =>
    simp only [Pass.change, Pass.configure, carryOut]
    split <;> simp_all [failure?, Change.removed?]
  | remove key =>
    simp only [Pass.change, Pass.remove, carryOut]
    split <;> simp_all [failure?, Change.removed?]

end Applier

namespace RefusesJust

variable {World : Type} {driver : Driver World} {struck : PublicKey → Bool}
  {state : List Exchange × World}

/-- Where the refusals on record are those of the struck keys behind a request, they were so before
it, and the request was granted unless it changes a struck key. -/
theorem of_answer {request : Request} {reply : Except TunnelError request.Reply}
    {next : List Exchange × World} (asked : driver.logged.answer request state = (reply, next))
    (refuses : RefusesJust struck next.1) :
    RefusesJust struck state.1 ∧ reply.isOk = !request.changedKey?.any struck := by
  obtain ⟨rfl, rfl⟩ := Prod.mk.inj asked
  exact ⟨fun exchange member => refuses exchange (List.mem_append_left _ member),
    refuses _ (List.mem_append_right _ (List.mem_singleton_self _))⟩

theorem of_ensureRoute {network : Network} {reply : Except TunnelError Unit}
    {next : List Exchange × World} (asked : driver.logged.ensureRoute network state = (reply, next))
    (refuses : RefusesJust struck next.1) : RefusesJust struck state.1 ∧ reply.isOk = true := by
  unfold Driver.ensureRoute at asked
  split at asked
  · rename_i looked
    obtain ⟨rfl, rfl⟩ := Prod.mk.inj asked
    exact absurd (of_answer looked refuses).2 Bool.false_ne_true
  · rename_i looked
    obtain ⟨rfl, rfl⟩ := Prod.mk.inj asked
    exact ⟨(of_answer looked refuses).1, rfl⟩
  · rename_i looked
    obtain ⟨before, added⟩ := of_answer asked refuses
    exact ⟨(of_answer looked before).1, added⟩

/-- A walk over routes does not stop. -/
theorem of_ensureRoutes {networks : List Network} {walk : Applier.RouteWalk}
    (refuses : RefusesJust struck (Applier.ensureRoutes driver.logged walk networks state).2.1) :
    RefusesJust struck state.1 ∧
      (Applier.ensureRoutes driver.logged walk networks state).1.failure = walk.failure := by
  induction networks generalizing walk state with
  | nil => exact ⟨refuses, rfl⟩
  | cons network rest inductionHypothesis =>
    by_cases offered : network.isDefaultRoute = true
    · simp only [Applier.ensureRoutes, if_pos offered] at refuses ⊢
      exact inductionHypothesis refuses
    · simp only [Applier.ensureRoutes, if_neg offered] at refuses ⊢
      cases asked : driver.logged.ensureRoute network state with
      | mk reply next =>
        rw [asked] at refuses
        cases reply with
        | error error => exact absurd (of_ensureRoute asked refuses).2 Bool.false_ne_true
        | ok done =>
          obtain ⟨before, walked⟩ := inductionHypothesis refuses
          exact ⟨(of_ensureRoute asked before).1, walked⟩

theorem of_deleteRoutes {networks : List Network}
    (refuses : RefusesJust struck (driver.logged.deleteRoutes networks state).1) :
    RefusesJust struck state.1 := by
  unfold Driver.deleteRoutes at refuses
  induction networks generalizing state with
  | nil => exact refuses
  | cons network rest inductionHypothesis => exact (of_answer rfl (inductionHypothesis refuses)).1

/-- A change fails exactly if its key is struck. -/
theorem of_carryOut {applier : Applier} {change : Change}
    (refuses :
      RefusesJust struck (Applier.carryOut driver.logged applier state change).2.2.1) :
    RefusesJust struck state.1 ∧
      (Applier.carryOut driver.logged applier state change).1.isSome = struck change.key := by
  have asked : RefusesJust struck (driver.logged.answer change.request state).2.1 →
      RefusesJust struck state.1 ∧
        (driver.logged.answer change.request state).1.isOk = !struck change.key := by
    intro requested
    obtain ⟨before, answered⟩ := of_answer rfl requested
    rw [Change.changedKey?_request] at answered
    exact ⟨before, answered⟩
  rcases Applier.carryOut_cases driver.logged applier state change with
    ⟨error, failed, refused⟩ | ⟨error, _, failed, stopped⟩ | ⟨granted, _, done⟩
  · rw [refused] at refuses ⊢
    obtain ⟨before, answered⟩ := asked refuses
    rw [failed] at answered
    exact ⟨before, by simpa using answered⟩
  · rw [stopped] at refuses
    rw [Applier.walkFor, (of_ensureRoutes refuses).2] at failed
    cases failed
  · rw [done] at refuses ⊢
    obtain ⟨before, answered⟩ := asked (of_ensureRoutes (of_deleteRoutes refuses)).1
    rw [granted] at answered
    exact ⟨before, by simpa using answered⟩

/-- A pass fails to change the struck keys among its keys, and configures and removes the others. -/
theorem of_foldl {changes : List Change} {pass : Applier.Pass (List Exchange × World)}
    (refuses : RefusesJust struck
      (changes.foldl (Applier.Pass.change driver.logged) pass).world.1) :
    let report := (changes.foldl (Applier.Pass.change driver.logged) pass).report
    RefusesJust struck pass.world.1 ∧
      report.failures.map Prod.fst =
        pass.report.failures.map Prod.fst ++ (changes.map Change.key).filter struck ∧
      report.configured =
        pass.report.configured ++ (changes.filterMap Change.configured?).filter (!struck ·) ∧
      report.removed =
        pass.report.removed ++ (changes.filterMap Change.removed?).filter (!struck ·) := by
  induction changes generalizing pass with
  | nil => simpa using refuses
  | cons change rest inductionHypothesis =>
    obtain ⟨first, failures, configured, removed⟩ := inductionHypothesis refuses
    rw [Applier.change_world] at first
    obtain ⟨before, carried⟩ := of_carryOut first
    rw [Applier.change_failures] at failures
    rw [Applier.change_configured, carried] at configured
    rw [Applier.change_removed, carried] at removed
    refine ⟨before, failures.trans ?_, configured.trans ?_, removed.trans ?_⟩
    · cases failure : (Applier.carryOut driver.logged pass.applier pass.world change).1 <;>
        simp_all
    · rw [List.append_assoc, change.filter_filterMap_cons Change.configured?]
      rintro key read
      cases change <;> simp_all [Change.configured?, Change.key]
    · rw [List.append_assoc, change.filter_filterMap_cons Change.removed?]
      rintro key read
      cases change <;> simp_all [Change.removed?, Change.key]

end RefusesJust

namespace Node

/-- A full pass reports the struck keys among its keys as failures, and the others as configured
and removed. -/
theorem fullPass_report_of_refused {World : Type} (driver : Driver World)
    (peers : List PeerRecord) (node : Node World) (struck : PublicKey → Bool)
    (refuses : RefusesJust struck (node.passExchanges driver peers)) :
    let changes := node.changesFor peers
    let report := (node.fullPass driver peers).1.apply
    report.failures.map Prod.fst = (changes.map Change.key).filter struck ∧
      report.configured = (changes.filterMap Change.configured?).filter (!struck ·) ∧
      report.removed = (changes.filterMap Change.removed?).filter (!struck ·) := by
  have logged : node.passOver driver peers =
      (node.recording.passOver driver.logged peers).through Prod.snd :=
    driver.follows_logged.passOver peers node.recording
  have recorded : node.recording.passOver driver.logged peers =
      (node.changesFor peers).foldl (Applier.Pass.change driver.logged)
        ⟨{}, node.reconciler.applier, ([], node.world)⟩ :=
    passOver_eq_foldl driver.logged peers node.recording
  have reported : (node.fullPass driver peers).1.apply =
      (node.recording.passOver driver.logged peers).report :=
    congrArg Applier.Pass.report logged
  change RefusesJust struck (node.recording.passOver driver.logged peers).world.1 at refuses
  rw [recorded] at refuses reported
  rw [reported]
  exact refuses.of_foldl.2

end Node

end MeshNode
