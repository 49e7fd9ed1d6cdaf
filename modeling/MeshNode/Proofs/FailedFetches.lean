import MeshNode.Proofs.ShortCut

/-!
# Failed fetches are invisible

Put failed fetches into a run, anywhere and as often as wanted, and let the session come
back at any time. The ticks that were there before make the same exchanges with the
tunnel as without the failures, the failures make none, and both runs end with the same
node but for the phase.

The phase is all that a failed fetch moves, and a full pass does not read it. It decides
only whether a tick makes the pass: a session that was lost forces one that would
have been skipped, and a session that came back may skip one that was forced. Neither
shows, since a tick that skips the pass leaves and requests what the pass would.
-/

namespace MeshNode

/-- What happens to a node: an event of its run, or something that was put between. -/
inductive Happening where
  | own (event : NodeEvent)
  /-- A tick whose fetch fails. -/
  | failedFetch (error : ListingError)
  /-- The session is restored. -/
  | sessionReturn

namespace Happening

/-- The event that happens. -/
def event : Happening → NodeEvent
  | .own event => event
  | .failedFetch error => .tick (.error error)
  | .sessionReturn => .resume

/-- Whether it belongs to the run itself. -/
def isOwn : Happening → Bool
  | .own _ => true
  | .failedFetch _ => false
  | .sessionReturn => false

/-- The events of some happenings. -/
def events (happenings : List Happening) : List NodeEvent := happenings.map event

/-- The happenings without what was put between. -/
def undisturbed (happenings : List Happening) : List Happening := happenings.filter isOwn

variable {happening : Happening} {rest : List Happening}

theorem undisturbed_own (own : happening.isOwn = true) :
    undisturbed (happening :: rest) = happening :: undisturbed rest :=
  List.filter_cons_of_pos own

theorem undisturbed_put (put : happening.isOwn = false) :
    undisturbed (happening :: rest) = undisturbed rest :=
  List.filter_cons_of_neg (Bool.eq_false_iff.mp put)

theorem eq_own_event (own : happening.isOwn = true) : happening = .own happening.event := by
  cases happening with
  | own event => rfl
  | failedFetch error => cases own
  | sessionReturn => cases own

theorem quiet_of_put (put : happening.isOwn = false) (change : LocalNode → LocalNode)
    (updates : happening.event = .updateLocal change) : False := by
  cases happening with
  | own event => cases put
  | failedFetch error => cases updates
  | sessionReturn => cases updates

/-- What is put between leaves the local node alone. -/
theorem localNodes_undisturbed (happenings : List Happening) (node : LocalNode) :
    NodeEvent.localNodes (events (undisturbed happenings)) node =
      NodeEvent.localNodes (events happenings) node := by
  induction happenings generalizing node with
  | nil => rfl
  | cons happening rest inductionHypothesis =>
    cases own : happening.isOwn with
    | true =>
      rw [undisturbed_own own, events, events, List.map_cons, List.map_cons]
      cases happening.event with
      | updateLocal change => exact congrArg (node :: ·) (inductionHypothesis _)
      | tick fetched => exact inductionHypothesis node
      | awaitSession => exact inductionHypothesis node
      | resume => exact inductionHypothesis node
      | recordHealth results => exact inductionHypothesis node
    | false =>
      rw [undisturbed_put own, inductionHypothesis]
      exact (NodeEvent.localNodes_cons node (events rest) (quiet_of_put own)).symm

end Happening

namespace Reconciler

/-- Settling neither reads nor moves the phase. -/
theorem settle_inPhase (report : ApplyReport) (added : List TunnelPeer)
    (removed : List PublicKey) (reconciler : Reconciler) (phase : Phase) :
    settle report added removed { reconciler with phase } =
      { settle report added removed reconciler with phase } := by
  have moved := settle_frame report added removed reconciler { reconciler with phase }
  have settled := settle_frame report added removed reconciler reconciler
  exact moved.trans (congrArg (fun after : Reconciler => { after with phase }) settled.symm)

end Reconciler

namespace Node

open Reconciler

variable {World : Type} (driver : Driver World)

/-- The same node in a given phase. -/
def inPhase (phase : Phase) (node : Node World) : Node World :=
  { node with reconciler := { node.reconciler with phase } }

/-- The exchanges of one event, in order. -/
def eventExchanges (event : NodeEvent) (node : Node World) : List Exchange :=
  (node.recording.step driver.logged event).world.1

/-- What happens to a node, each with the exchanges that it makes. -/
def diary : List Happening → Node World → List (Happening × List Exchange)
  | [], _ => []
  | happening :: rest, node =>
    (happening, node.eventExchanges driver happening.event) ::
      diary rest (node.step driver happening.event)

section Phases

variable (phase : Phase) (node : Node World)

/-- A full pass does not depend on the phase that it finds. -/
theorem fullPass_inPhase (peers : List PeerRecord) :
    (node.inPhase phase).fullPass driver peers = node.fullPass driver peers := by
  have passed : (node.inPhase phase).fullPass driver peers =
      ((node.fullPass driver peers).1,
        { (node.fullPass driver peers).2 with
          reconciler :=
            { settle (node.passOver driver peers).report
                (node.reconciler.toConfigure (node.planFor peers).desired)
                (node.reconciler.toRemove (node.planFor peers).desired)
                { { node.reconciler with applier := (node.passOver driver peers).applier } with
                  phase } with
              phase := .steady
              steadyOnce := true
              lastRelayHealthy := some (node.cache.relayHealthyAmong peers)
              lastGeneration := some node.localNode.generation } }) := rfl
  rw [passed, settle_inPhase]
  rfl

theorem passExchanges_inPhase (peers : List PeerRecord) :
    (node.inPhase phase).passExchanges driver peers = node.passExchanges driver peers :=
  congrArg (fun passed => passed.2.world.1)
    (fullPass_inPhase driver.logged phase node.recording peers)

/-- What is put between makes no exchange and moves the phase alone. -/
theorem step_of_put (happening : Happening) (put : happening.isOwn = false) :
    node.eventExchanges driver happening.event = [] ∧
      ∃ next, node.step driver happening.event = node.inPhase next := by
  match happening with
  | .failedFetch (.transient reason) => exact ⟨rfl, node.reconciler.phase, rfl⟩
  | .failedFetch (.unauthorized reason) => exact ⟨rfl, .reauthenticating, rfl⟩
  | .sessionReturn => exact ⟨rfl, node.reconciler.resume.phase, rfl⟩

variable {phase} {node} {locals : List LocalNode}

/-- An event makes the same exchanges in either phase, and leaves the same but for the phase, if the
local node is told apart. -/
theorem step_inPhase (traced : node.Traced locals)
    (otherTraced : (node.inPhase phase).Traced locals) (told : node.localNode.ToldApart locals)
    (event : NodeEvent)
    (apart : ∀ listing, event = .tick (.ok listing) →
      (listing.map PeerRecord.publicKey).Nodup) :
    (node.inPhase phase).eventExchanges driver event = node.eventExchanges driver event ∧
      ∃ next, (node.inPhase phase).step driver event = (node.step driver event).inPhase next := by
  match event with
  | .tick (.error (.transient reason)) => exact ⟨rfl, phase, rfl⟩
  | .tick (.error (.unauthorized reason)) => exact ⟨rfl, .reauthenticating, rfl⟩
  | .tick (.ok listing) =>
    obtain ⟨left, made⟩ := traced.tick_listing driver node told listing (apart listing rfl)
    obtain ⟨otherLeft, otherMade⟩ :=
      otherTraced.tick_listing driver (node.inPhase phase) told listing (apart listing rfl)
    constructor
    · exact otherMade.trans ((passExchanges_inPhase driver phase node _).trans made.symm)
    · refine ⟨.steady, ?_⟩
      have passed := congrArg Prod.snd
        (fullPass_inPhase driver phase node (prepare node.localNode listing))
      change (tick driver _ (node.inPhase phase)).2 = (tick driver _ node).2.inPhase .steady
      rw [left]
      exact otherLeft.trans passed
  | .awaitSession => exact ⟨rfl, .reauthenticating, rfl⟩
  | .resume => exact ⟨rfl, node.reconciler.resume.phase, rfl⟩
  | .recordHealth results => exact ⟨rfl, phase, rfl⟩
  | .updateLocal change => exact ⟨rfl, phase, rfl⟩

end Phases

/-- Two nodes that differ in their phases at most, one of which is disturbed: the exchanges of the
run itself are the same, what is put between makes none, and they differ in their phases at most
again. -/
theorem diary_inPhase (locals : List LocalNode)
    (tells : ∀ localNode ∈ locals, localNode.ToldApart locals) (happenings : List Happening)
    (apart : ∀ listing, .own (.tick (.ok listing)) ∈ happenings →
      (listing.map PeerRecord.publicKey).Nodup)
    (node : Node World) (phase : Phase) (traced : node.Traced locals)
    (otherTraced : (node.inPhase phase).Traced locals)
    (within : NodeEvent.localNodes (Happening.events happenings) node.localNode ⊆ locals) :
    (diary driver happenings (node.inPhase phase)).filter (·.1.isOwn) =
        diary driver (Happening.undisturbed happenings) node ∧
      (∀ entry ∈ diary driver happenings (node.inPhase phase), entry.1.isOwn = false →
        entry.2 = []) ∧
      ∃ last, run driver (Happening.events happenings) (node.inPhase phase) =
        (run driver (Happening.events (Happening.undisturbed happenings)) node).inPhase last := by
  induction happenings generalizing node phase with
  | nil => exact ⟨rfl, nofun, phase, rfl⟩
  | cons happening rest inductionHypothesis =>
    have restApart := fun listing member =>
      apart listing (List.mem_cons_of_mem happening member)
    have restWithin := List.Subset.trans
      (localNodes_step driver happening.event (Happening.events rest) node) within
    have next := restWithin (NodeEvent.mem_localNodes_self _ _)
    cases own : happening.isOwn with
    | true =>
      have listed : ∀ listing, happening.event = .tick (.ok listing) →
          (listing.map PeerRecord.publicKey).Nodup := by
        intro listing ticks
        apply apart listing
        rw [← ticks, ← Happening.eq_own_event own]
        exact List.mem_cons_self
      obtain ⟨made, phaseAfter, left⟩ := step_inPhase driver traced otherTraced
        (tells node.localNode traced.present) happening.event listed
      have otherNext : ((node.inPhase phase).step driver happening.event).Traced locals :=
        otherTraced.step driver happening.event (by rw [left]; exact next)
      obtain ⟨kept, silent, last, ended⟩ := inductionHypothesis restApart
        (node.step driver happening.event) phaseAfter
        (traced.step driver happening.event next) (left ▸ otherNext) restWithin
      rw [← left] at kept silent ended
      rw [Happening.undisturbed_own own]
      refine ⟨?_, ?_, last, ended⟩
      · rw [diary, diary, made, ← kept]
        exact List.filter_cons_of_pos own
      · rintro entry (_ | ⟨_, later⟩) put
        · exact absurd (own.symm.trans put) nofun
        · exact silent entry later put
    | false =>
      obtain ⟨made, phaseAfter, left⟩ := step_of_put driver (node.inPhase phase) happening own
      replace left : (node.inPhase phase).step driver happening.event =
        node.inPhase phaseAfter := left
      have otherNext : ((node.inPhase phase).step driver happening.event).Traced locals :=
        otherTraced.step driver happening.event (by rw [left]; exact traced.present)
      have stays : NodeEvent.localNodes (Happening.events rest) node.localNode ⊆ locals := by
        rwa [Happening.events, List.map_cons,
          NodeEvent.localNodes_cons _ _ (Happening.quiet_of_put own)] at within
      obtain ⟨kept, silent, last, ended⟩ := inductionHypothesis restApart node phaseAfter
        traced (left ▸ otherNext) stays
      rw [← left] at kept silent ended
      rw [Happening.undisturbed_put own]
      refine ⟨?_, ?_, last, ended⟩
      · rw [diary, ← kept]
        exact List.filter_cons_of_neg (Bool.eq_false_iff.mp own)
      · rintro entry (_ | ⟨_, later⟩) put
        · exact made
        · exact silent entry later put

/-- Put failed fetches and returns of the session into any run whose local nodes generations tell
apart and whose listings have distinct keys. What belongs to the run makes the exchanges
that it makes undisturbed, what is put between makes none, and the node ends as it does
undisturbed but for its phase. -/
theorem failed_fetches_invisible (localNode : LocalNode) (cache : DeviceCache) (applier : Applier)
    (world : World) (happenings : List Happening)
    (tells : NodeEvent.GenerationsTell
      (Happening.events (Happening.undisturbed happenings)) localNode)
    (apart : ∀ listing, .own (.tick (.ok listing)) ∈ happenings →
      (listing.map PeerRecord.publicKey).Nodup) :
    let origin := start localNode cache applier world
    (diary driver happenings origin).filter (·.1.isOwn) =
        diary driver (Happening.undisturbed happenings) origin ∧
      (∀ entry ∈ diary driver happenings origin, entry.1.isOwn = false → entry.2 = []) ∧
      ∃ last, run driver (Happening.events happenings) origin =
        (run driver (Happening.events (Happening.undisturbed happenings)) origin).inPhase last := by
  intro origin
  rw [NodeEvent.GenerationsTell, Happening.localNodes_undisturbed] at tells
  have traced := start_traced localNode cache applier world
    (NodeEvent.mem_localNodes_self (Happening.events happenings) localNode)
  exact diary_inPhase driver _ tells happenings apart origin .initializing traced traced
    (List.Subset.refl _)

/-- A lost session forces the next tick into a pass that the undisturbed run skips. -/
theorem lost_session_invisible :
    let again := Happening.own (.tick (.ok [Sample.device "2.2.2.2:51820"]))
    let lost := Happening.failedFetch (.unauthorized "expired")
    let origin := start Sample.home {} {} ({} : ScriptedTunnel)
    let disturbed := run ScriptedTunnel.driver (Happening.events [again, lost]) origin
    let undisturbed := run ScriptedTunnel.driver (Happening.events [again]) origin
    let peers := prepare Sample.home [Sample.device "2.2.2.2:51820"]
    disturbed.reconciler.mustRun Sample.home disturbed.cache peers = true ∧
      undisturbed.reconciler.mustRun Sample.home undisturbed.cache peers = false ∧
      (diary ScriptedTunnel.driver [again, lost, again] origin).filter (·.1.isOwn) =
        diary ScriptedTunnel.driver [again, again] origin ∧
      ∃ last, run ScriptedTunnel.driver (Happening.events [again, lost, again]) origin =
        (run ScriptedTunnel.driver (Happening.events [again, again]) origin).inPhase last := by
  intro again lost origin disturbed undisturbed peers
  have apart : ∀ listing, Happening.own (.tick (.ok listing)) ∈ [again, lost, again] →
      (listing.map PeerRecord.publicKey).Nodup := by
    simp [again, lost]
  obtain ⟨kept, _, ended⟩ := failed_fetches_invisible ScriptedTunnel.driver Sample.home {} {} {}
    [again, lost, again] (by decide +kernel) apart
  refine ⟨by decide +kernel, by decide +kernel, ?_⟩
  exact ⟨kept, ended⟩

/-- Where generations do not tell local nodes apart, a lost session may show: the pass that it
forces removes a device that the undisturbed run keeps. -/
theorem lost_session_shows_after_rewound :
    let again := Happening.own (.tick (.ok [Sample.device "2.2.2.2:51820"]))
    let lost := Happening.failedFetch (.unauthorized "expired")
    let happenings := Sample.rewinding.map .own ++ [lost, again]
    let origin := start Sample.home {} {} ({} : ScriptedTunnel)
    let disturbed := run ScriptedTunnel.driver (Happening.events happenings) origin
    let undisturbed := run ScriptedTunnel.driver
      (Happening.events (Happening.undisturbed happenings)) origin
    (∀ listing, .own (.tick (.ok listing)) ∈ happenings →
        (listing.map PeerRecord.publicKey).Nodup) ∧
      (diary ScriptedTunnel.driver happenings origin).filter (·.1.isOwn) ≠
        diary ScriptedTunnel.driver (Happening.undisturbed happenings) origin ∧
      disturbed.reconciler.applied.get? (Sample.key 1) = none ∧
      (undisturbed.reconciler.applied.get? (Sample.key 1)).isSome = true := by
  intro again lost happenings origin disturbed undisturbed
  refine ⟨?_, fun same => ?_, by decide +kernel, by decide +kernel⟩
  · simp [happenings, again, lost, Sample.rewinding]
  · have exchanges := congrArg (List.map Prod.snd) same
    revert exchanges
    decide +kernel

end Node

end MeshNode
