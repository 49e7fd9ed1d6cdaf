import MeshNode.Proofs.Convergence

/-!
# The short cut

A tick whose five facts have not moved makes no pass. Making the pass anyway would
request nothing and leave the whole node as it is, so the short cut changes nothing
but the work done.

What the facts stand for is told by the last full pass. Since that pass the snapshot
is the one it planned, what is applied is what it desired unless keys are dirty, and
the local node is the same as long as its generation is. So an unmoved listing, verdict
and generation plan what that pass planned, and a plan that was carried out is a
fixed point of planning.

The generation stands for the local node only if no other local node of the run has had
it. The invariant therefore says of which local nodes the present one and the one of the
last full pass are, and the short cut is judged where generations tell these apart.
-/

namespace MeshNode

namespace Node

open Reconciler

variable {World : Type} (driver : Driver World)

/-- What a node still has of its last full pass, which it made over prepared peers when it was the
past node. -/
structure Remembers (past : Node World) (peers : List PeerRecord) (node : Node World) : Prop where
  pastKeyed : Keyed past.reconciler.applied
  ascending : Ascending peers
  snapshot : node.cache.snapshot = (past.planFor peers).entries
  /-- Without dirty keys everything is applied as it was desired. -/
  applied : node.reconciler.dirty = [] →
    ∀ key, node.reconciler.applied.get? key = (past.planFor peers).desired.get? key
  verdict : node.reconciler.lastRelayHealthy = some (past.cache.relayHealthyAmong peers)
  generation : node.reconciler.lastGeneration = some past.localNode.generation
  /-- Only keys in the snapshot have health. -/
  health : ∀ key known, node.cache.health.get? key = some known →
    DeviceCache.holdsKey node.cache.snapshot key = true

/-- The invariant of a run: applied peers stand under their own keys, a steady node was steady once,
the local node is one of those of the run, and a node that was steady once remembers its last full
pass, which it made as another of those or the same. -/
structure Traced (locals : List LocalNode) (node : Node World) : Prop where
  keyed : Keyed node.reconciler.applied
  steady : node.reconciler.phase = .steady → node.reconciler.steadyOnce = true
  present : node.localNode ∈ locals
  remembers : node.reconciler.steadyOnce = true →
    ∃ past peers, past.localNode ∈ locals ∧ Remembers past peers node

section Invariant

variable (node : Node World)

/-- A full pass is remembered. -/
theorem fullPass_remembers (peers : List PeerRecord) (ascending : Ascending peers)
    (keyed : Keyed node.reconciler.applied) :
    Remembers node peers (node.fullPass driver peers).2 where
  pastKeyed := keyed
  ascending := ascending
  snapshot := rfl
  applied clean key := by
    obtain ⟨dirty, applied⟩ := fullPass_settles driver peers node key
    refine applied (Bool.eq_false_iff.mpr fun failed => ?_)
    have member := dirty.mpr failed
    rw [clean] at member
    cases member
  verdict := rfl
  generation := rfl
  health key known found := by
    have pruned : (DeviceCache.pruneHealth (node.planFor peers).entries node.cache.health).get?
        key = some known := found
    rw [DeviceCache.get?_pruneHealth] at pruned
    split at pruned
    · assumption
    · cases pruned

variable {node} {locals : List LocalNode}

/-- Recording health keeps what is remembered. -/
theorem Remembers.recordHealth {past : Node World} {peers : List PeerRecord}
    (remembers : Remembers past peers node) (results : Table PublicKey Health) :
    Remembers past peers { node with cache := node.cache.recordHealth results } :=
  { remembers with
    health := DeviceCache.holdsKey_of_insertHealth _ results _ remembers.health }

/-- A full pass keeps a node traced, and is then what it remembers. -/
theorem Traced.fullPass (traced : node.Traced locals) (listing : List PeerRecord) :
    (node.fullPass driver (prepare node.localNode listing)).2.Traced locals where
  keyed := keyed_settle _ _ _ _ traced.keyed
  steady _ := rfl
  present := traced.present
  remembers _ := ⟨node, _, traced.present,
    fullPass_remembers driver node _ (prepare_ascending node.localNode listing) traced.keyed⟩

/-- The stop of the session keeps a node traced. -/
theorem Traced.awaitSession (traced : node.Traced locals) :
    ({ node with reconciler := node.reconciler.awaitSession } : Node World).Traced locals where
  keyed := traced.keyed
  steady stopped := by cases stopped
  present := traced.present
  remembers once := by
    obtain ⟨past, peers, before, remembers⟩ := traced.remembers once
    exact ⟨past, peers, before, { remembers with }⟩

/-- An event keeps a node traced, if the local node that it leaves is one of those of the run. -/
theorem Traced.step (traced : node.Traced locals) (event : NodeEvent)
    (next : (node.step driver event).localNode ∈ locals) :
    (node.step driver event).Traced locals := by
  cases event with
  | tick fetched =>
    rcases tick_cases driver fetched node with
      ⟨_, _, ticked⟩ | ⟨_, _, ticked⟩ | ⟨_, _, _, ticked⟩ | ⟨listing, _, _, ticked⟩
    · rwa [Node.step, ticked]
    · rw [Node.step, ticked]
      exact traced.awaitSession
    · rwa [Node.step, ticked]
    · rw [Node.step, ticked]
      exact traced.fullPass driver listing
  | awaitSession => exact traced.awaitSession
  | resume =>
    refine ⟨traced.keyed, fun steady => ?_, traced.present, fun once => ?_⟩
    · simpa [Node.step, Reconciler.resume] using steady
    · obtain ⟨past, peers, before, remembers⟩ := traced.remembers once
      exact ⟨past, peers, before, { remembers with }⟩
  | recordHealth results =>
    refine ⟨traced.keyed, traced.steady, traced.present, fun once => ?_⟩
    obtain ⟨past, peers, before, remembers⟩ := traced.remembers once
    exact ⟨past, peers, before, remembers.recordHealth results⟩
  | updateLocal change =>
    refine ⟨traced.keyed, traced.steady, next, fun once => ?_⟩
    obtain ⟨past, peers, before, remembers⟩ := traced.remembers once
    exact ⟨past, peers, before, { remembers with }⟩

/-- So do any events, if all the local nodes that they leave are. -/
theorem Traced.run (events : List NodeEvent) (traced : node.Traced locals)
    (within : NodeEvent.localNodes events node.localNode ⊆ locals) :
    (run driver events node).Traced locals := by
  induction events generalizing node with
  | nil => exact traced
  | cons event rest inductionHypothesis =>
    have restWithin := List.Subset.trans (localNodes_step driver event rest node) within
    exact inductionHypothesis
      (traced.step driver event (restWithin (NodeEvent.mem_localNodes_self rest _))) restWithin

/-- A node that has not run yet is traced: it has nothing to remember. -/
theorem start_traced (localNode : LocalNode) (cache : DeviceCache) (applier : Applier)
    (world : World) (present : localNode ∈ locals) :
    (start localNode cache applier world).Traced locals := by
  refine ⟨fun key peer found => ?_, fun steady => ?_, present, fun once => ?_⟩
  · cases found
  · cases steady
  · cases once

/-- Every reachable node is traced among the local nodes of its run. -/
theorem run_traced (localNode : LocalNode) (cache : DeviceCache) (applier : Applier)
    (world : World) (events : List NodeEvent) :
    (Node.run driver events (start localNode cache applier world)).Traced
      (NodeEvent.localNodes events localNode) :=
  (start_traced localNode cache applier world
    (NodeEvent.mem_localNodes_self events localNode)).run driver events (List.Subset.refl _)

end Invariant

section Idle

variable {locals : List LocalNode} (node : Node World)

/-- A remembering node that has nothing to do plans what its last full pass planned, if generations
tell it from the node that made the pass. -/
theorem Remembers.planFor_of_idle {past : Node World} {pastPeers : List PeerRecord}
    (remembers : Remembers past pastPeers node)
    (unmoved : past.localNode.generation = node.localNode.generation →
      past.localNode = node.localNode)
    (peers : List PeerRecord)
    (ascending : Ascending peers) (apart : (peers.map PeerRecord.publicKey).Nodup)
    (idle : node.reconciler.mustRun node.localNode node.cache peers = false) :
    node.planFor peers = past.planFor pastPeers := by
  obtain ⟨_, sameListing, clean, sameVerdict, sameGeneration⟩ :=
    (mustRun_eq_false_iff _ _ _ _).mp idle
  have pastListing : (listingDiff node.cache.snapshot pastPeers).differs = false := by
    rw [remembers.snapshot]
    exact planFor_differs pastPeers past remembers.ascending
  have samePeers : peers = pastPeers :=
    eq_of_same_snapshot _ _ _ ascending remembers.ascending sameListing pastListing
  subst samePeers
  have verdict : node.cache.relayHealthyAmong peers = past.cache.relayHealthyAmong peers :=
    Option.some.inj (sameVerdict.symm.trans remembers.verdict)
  have sameNode : past.localNode = node.localNode :=
    unmoved (Option.some.inj (remembers.generation.symm.trans sameGeneration))
  rw [planFor, planFor, verdict, ← sameNode]
  exact plan_of_applied past.localNode peers _ apart past.reconciler.applied
    node.reconciler.applied remembers.pastKeyed (remembers.applied clean)

/-- A full pass without changes requests nothing, keeps the tunnel and takes note of what it was
computed from. -/
theorem fullPass_of_no_changes (peers : List PeerRecord)
    (configure : node.reconciler.toConfigure (node.planFor peers).desired = [])
    (remove : node.reconciler.toRemove (node.planFor peers).desired = []) :
    (node.fullPass driver peers).2 =
      { node with
        cache := node.cache.replace (node.planFor peers).entries
        reconciler :=
          { node.reconciler with
            phase := .steady
            steadyOnce := true
            lastRelayHealthy := some (node.cache.relayHealthyAmong peers)
            lastGeneration := some node.localNode.generation } } := by
  have passed : (node.fullPass driver peers).2 =
      { node with
        cache := node.cache.replace (node.planFor peers).entries
        reconciler :=
          { settle (node.passOver driver peers).report
              (node.reconciler.toConfigure (node.planFor peers).desired)
              (node.reconciler.toRemove (node.planFor peers).desired)
              { node.reconciler with applier := (node.passOver driver peers).applier } with
            phase := .steady
            steadyOnce := true
            lastRelayHealthy := some (node.cache.relayHealthyAmong peers)
            lastGeneration := some node.localNode.generation }
        world := (node.passOver driver peers).world } := rfl
  have nothing : node.passOver driver peers = ⟨{}, node.reconciler.applier, node.world⟩ := by
    rw [passOver, configure, remove]
    rfl
  rw [passed, nothing, configure, remove]
  rfl

/-- A traced node that is told apart and has nothing to do would keep everything in a full pass, and
request nothing. -/
theorem Traced.fullPass_of_idle (traced : node.Traced locals)
    (told : node.localNode.ToldApart locals) (peers : List PeerRecord)
    (ascending : Ascending peers) (apart : (peers.map PeerRecord.publicKey).Nodup)
    (idle : node.reconciler.mustRun node.localNode node.cache peers = false) :
    node.passExchanges driver peers = [] ∧ (node.fullPass driver peers).2 = node := by
  obtain ⟨steady, _, clean, sameVerdict, sameGeneration⟩ := (mustRun_eq_false_iff _ _ _ _).mp idle
  have once : node.reconciler.steadyOnce = true := traced.steady steady
  obtain ⟨past, pastPeers, before, remembers⟩ := traced.remembers once
  have samePlan : node.planFor peers = past.planFor pastPeers :=
    remembers.planFor_of_idle node (told past.localNode before) peers ascending apart idle
  have snapshot : (node.planFor peers).entries = node.cache.snapshot := by
    rw [samePlan, remembers.snapshot]
  have applied : ∀ key, node.reconciler.applied.get? key =
      (node.planFor peers).desired.get? key := by
    rw [samePlan]
    exact remembers.applied clean
  obtain ⟨configure, remove⟩ := difference_eq_nil node.reconciler (node.planFor peers).desired
    (plan_keyed _ _) clean applied
  constructor
  · have recorded := fullPass_of_no_changes driver.logged node.recording peers configure remove
    rw [passExchanges, recorded]
    rfl
  · rw [fullPass_of_no_changes driver node peers configure remove, snapshot,
      node.cache.replace_self remembers.health, ← steady, ← once, ← sameVerdict, ← sameGeneration]

/-- So whether or not it has anything to do, a node that is traced and told apart leaves and
requests in a tick with a listing what it would in the full pass. -/
theorem Traced.tick_listing (traced : node.Traced locals)
    (told : node.localNode.ToldApart locals) (listing : List PeerRecord)
    (apart : (listing.map PeerRecord.publicKey).Nodup) :
    let peers := prepare node.localNode listing
    (node.tick driver (.ok listing)).2 = (node.fullPass driver peers).2 ∧
      node.tickExchanges driver (.ok listing) = node.passExchanges driver peers := by
  intro peers
  rw [tickExchanges_eq]
  cases must : node.reconciler.mustRun node.localNode node.cache peers with
  | true => exact ⟨congrArg Prod.snd (if_pos must), if_pos rfl⟩
  | false =>
    obtain ⟨silent, same⟩ := traced.fullPass_of_idle driver node told peers
      (prepare_ascending node.localNode listing)
      (prepare_map_nodup node.localNode listing PeerRecord.publicKey apart) must
    rw [(tick_of_idle driver node listing must).1, same, silent]
    exact ⟨rfl, if_neg Bool.false_ne_true⟩

end Idle

/-- After every run that had no other local node of the present generation, and for every listing
with distinct keys: where a tick would be unchanged, the full pass requests nothing and leaves the
applied peers, the dirty keys, the installed routes, the snapshot, the health table and all else
as they are. -/
theorem shortCut_agrees (localNode : LocalNode) (cache : DeviceCache) (applier : Applier)
    (world : World) (events : List NodeEvent) (listing : List PeerRecord)
    (apart : (listing.map PeerRecord.publicKey).Nodup) :
    let node := run driver events (start localNode cache applier world)
    let peers := prepare node.localNode listing
    node.localNode.ToldApart (NodeEvent.localNodes events localNode) →
      node.reconciler.mustRun node.localNode node.cache peers = false →
        node.passExchanges driver peers = [] ∧ (node.fullPass driver peers).2 = node := by
  intro node peers told idle
  have traced := run_traced driver localNode cache applier world events
  exact traced.fullPass_of_idle driver node told peers (prepare_ascending node.localNode listing)
    (prepare_map_nodup node.localNode listing PeerRecord.publicKey apart) idle

/-- A device fails, is retried and then publishes an endpoint that is not finished. The pass after
it has converged would find its configuration in what is applied and keep it. -/
theorem shortCut_agrees_on_converging :
    let node := run ScriptedTunnel.driver
      [.tick (.ok [Sample.device "2.2.2.2:51820"]), .tick (.ok [Sample.device "2.2.2.2:51820"]),
        .updateLocal fun node => { node with reflexive := ⟨.v4 0x03030303, 40000, 0⟩ },
        .tick (.ok [Sample.device ""]), .recordHealth (Table.ofList [(Sample.key 1, .silent)])]
      (start Sample.home {} {} { script := [true] })
    let peers := prepare node.localNode [Sample.device ""]
    (node.reconciler.applied.get? (Sample.key 1)).isSome = true ∧
      node.passExchanges ScriptedTunnel.driver peers = [] ∧
      (node.fullPass ScriptedTunnel.driver peers).2 = node := by
  intro node peers
  have applied : (node.reconciler.applied.get? (Sample.key 1)).isSome = true := by decide +kernel
  have idle : node.reconciler.mustRun node.localNode node.cache peers = false := by
    decide +kernel
  refine ⟨applied, shortCut_agrees ScriptedTunnel.driver Sample.home {} {} { script := [true] } _
    [Sample.device ""] (List.nodup_singleton _) ?_ idle⟩
  -- Two updates, neither of which writes to the counter.
  refine NodeEvent.generationsTell_of_counted _ _ ?_ (by decide) _ (run_localNode_mem _ _ _)
  intro change member before
  simp only [List.mem_cons, List.not_mem_nil, NodeEvent.updateLocal.injEq, reduceCtorEq, or_false,
    false_or] at member
  rw [member]

end Node

namespace Sample

/-- A change of the local node that also winds its generation back. -/
def rewound (node : LocalNode) : LocalNode := { node with relayOnly := true, generation := 0 }

/-- A node is updated, configures a device, and then stops dialling devices in a change that brings
back the generation of the first update. -/
def rewinding : List NodeEvent :=
  [.updateLocal id, .tick (.ok [device "2.2.2.2:51820"]), .updateLocal rewound]

end Sample

namespace Node

open Reconciler

/-- Where a run had another local node of the present generation, a tick may be unchanged although
the full pass would remove a device. -/
theorem shortCut_misses_rewound :
    let listing := [Sample.device "2.2.2.2:51820"]
    let node := run ScriptedTunnel.driver Sample.rewinding (start Sample.home {} {} {})
    let peers := prepare node.localNode listing
    (listing.map PeerRecord.publicKey).Nodup ∧
      node.reconciler.mustRun node.localNode node.cache peers = false ∧
      ⟨.remove (Sample.key 1), true⟩ ∈ node.passExchanges ScriptedTunnel.driver peers ∧
      (node.reconciler.applied.get? (Sample.key 1)).isSome = true ∧
      (node.fullPass ScriptedTunnel.driver peers).2.reconciler.applied.get? (Sample.key 1) =
        none := by
  decide +kernel

end Node

end MeshNode
