import MeshNode.Proofs.MinimalChange
import MeshNode.Proofs.TunnelLaws

/-!
# Converging peers and failed configurations

A device whose endpoint is not published yet keeps the configuration that is applied for
it, so a tick has no reason to remove it. The reconciler reads that configuration off its
own memory, and not off the tunnel: a configuration that failed is not applied, whatever
of it has reached the tunnel. A key that is dirty with nothing applied is therefore
removed as soon as its device converges, and this is the only way in which a converging
device loses its peer.

Only a failed configuration leaves a key so. A failed removal keeps what was applied, and
the converging device is configured again. The main statement says both: what decides in
one state, and for a whole run that a key whose configurations have not failed is spared.
-/

namespace MeshNode

namespace Reconciler

/-- A key that is not desired and whose removal failed is left with what was applied for it. -/
theorem applied_settle_of_failed_removal (report : ApplyReport) (reconciler : Reconciler)
    (desired : Table PublicKey TunnelPeer) (keyed : Keyed desired) (key : PublicKey)
    (unwanted : desired.get? key = none) (failed : report.failed key = true) :
    (settle report (reconciler.toConfigure desired) (reconciler.toRemove desired)
      reconciler).applied.get? key = reconciler.applied.get? key := by
  have folded : settle report (reconciler.toConfigure desired) (reconciler.toRemove desired)
      reconciler = (reconciler.difference desired).foldl (settleChange report) reconciler :=
    settle_eq_foldl report _ _ reconciler
  have moves := settleChange_movesOwnKey report
  rw [folded]
  by_cases changed : key ∈ (reconciler.difference desired).map Change.key
  · obtain ⟨change, member, rfl⟩ := List.mem_map.mp changed
    have removal : change = .remove change.key := by
      have decided := change.eq_toReach
      rw [reconciler.wanted_of_mem_difference desired keyed change member, unwanted] at decided
      exact decided
    obtain ⟨before, found, left⟩ := moves.foldl_from (reconciler.difference desired) reconciler
      (reconciler.difference_nodup desired keyed) change member
    have kept : (settleChange report before change).applied = before.applied := by
      rw [removal]
      simp [settleChange, settleRemoved, failed]
    rw [(Prod.mk.inj left).2, kept, (Prod.mk.inj found).2]
  · exact (Prod.mk.inj (moves.foldl_other _ reconciler key changed)).2

end Reconciler

namespace Node

open Reconciler

variable {World : Type} (driver : Driver World)

section Pass

variable (peers : List PeerRecord) (node : Node World) (key : PublicKey)

/-- A full pass requests the removal of the keys that are dirty or applied and not desired. -/
theorem removal_requested_iff :
    (∃ exchange ∈ node.passExchanges driver peers, exchange.request = .remove key) ↔
      (key ∈ node.reconciler.dirty ∨ node.reconciler.applied.get? key ≠ none) ∧
        (node.planFor peers).desired.get? key = none := by
  have requested := requests_of_key driver peers node key
  have listed : (∃ exchange ∈ node.passExchanges driver peers, exchange.request = .remove key) ↔
      .remove key ∈ ((node.passExchanges driver peers).map Exchange.request).filter
        (Request.changes key) := by
    simp [List.mem_filter, Request.changes]
  rw [listed, requested]
  cases wanted : (node.planFor peers).desired.get? key with
  | none => split <;> simp_all [Change.toReach, Change.request]
  | some peer => split <;> simp [Change.toReach, Change.request]

/-- For the key of a converging record a pass wants something exactly where something is applied. -/
theorem desired_of_converging (keyed : Keyed node.reconciler.applied)
    (apart : (peers.map PeerRecord.publicKey).Nodup) (record : PeerRecord)
    (member : record ∈ peers) (method : PeeringMethod)
    (converges : PeerPath.select node.localNode record (node.cache.relayHealthyAmong peers) =
      .converging method) :
    (node.planFor peers).desired.get? record.publicKey = none ↔
      node.reconciler.applied.get? record.publicKey = none := by
  let paths := pathsOf node.localNode peers (node.cache.relayHealthyAmong peers)
  have onPath : (record, PeerPath.converging method) ∈ paths :=
    List.mem_map.mpr ⟨record, member, by rw [converges]⟩
  have asked : (node.planFor peers).desired.get? record.publicKey =
      (node.reconciler.applied.get? record.publicKey).map
        (carryChildren record (relayedChildren paths)) :=
    desired_of_mem_paths node.reconciler.applied (relayedChildren paths) paths
      (by rwa [publicKeys_pathsOf])
      (asksOwnKey_pathsOf node.localNode _ node.reconciler.applied keyed _ peers) _ onPath
  rw [asked, Option.map_eq_none_iff]

end Pass

/-- A tick with a listing wants a peer for a key and fails to configure it. -/
def FailsToConfigure (key : PublicKey) (listing : List PeerRecord) (node : Node World) : Prop :=
  (node.planFor (prepare node.localNode listing)).desired.get? key ≠ none ∧
    ∃ report after, node.tick driver (.ok listing) = (.ok report, after) ∧
      report.apply.failed key = true

/-- A key is still applied if it is dirty. -/
def DirtyIsApplied (key : PublicKey) (node : Node World) : Prop :=
  key ∈ node.reconciler.dirty → node.reconciler.applied.get? key ≠ none

/-- A full pass that does not fail to configure a key leaves it applied if it leaves it dirty. -/
theorem fullPass_dirtyIsApplied (peers : List PeerRecord) (node : Node World) (key : PublicKey)
    (succeeds : (node.planFor peers).desired.get? key ≠ none →
      (node.fullPass driver peers).1.apply.failed key = false)
    (held : node.DirtyIsApplied key) : (node.fullPass driver peers).2.DirtyIsApplied key := by
  intro dirty
  have failed : (node.passOver driver peers).report.failed key = true :=
    (fullPass_settles driver peers node key).1.mp dirty
  have unwanted : (node.planFor peers).desired.get? key = none := by
    by_contra wanted
    exact absurd failed (Bool.eq_false_iff.mp (succeeds wanted))
  have keyed : Keyed (node.planFor peers).desired := plan_keyed _ _
  have applied : node.reconciler.applied.get? key ≠ none := by
    have changed : key ∈ (node.changesFor peers).map Change.key := by
      by_contra absent
      exact absurd failed (Bool.eq_false_iff.mp
        (not_failed_of_unchanged driver peers node key absent))
    obtain ⟨change, member, rfl⟩ := List.mem_map.mp changed
    rcases ((node.reconciler.mem_difference_iff _ keyed change).mp member).2 with was | differs
    · exact held was
    · rwa [unwanted] at differs
  have left : (node.fullPass driver peers).2.reconciler.applied.get? key =
      node.reconciler.applied.get? key :=
    applied_settle_of_failed_removal (node.passOver driver peers).report
      { node.reconciler with applier := (node.passOver driver peers).applier }
      (node.planFor peers).desired keyed key unwanted failed
  rwa [left]

/-- In a run without a tick that fails to configure a key, the key stays applied while it is
dirty. -/
theorem run_dirtyIsApplied (key : PublicKey) (events : List NodeEvent) (node : Node World)
    (succeeds : ∀ earlier listing later, events = earlier ++ .tick (.ok listing) :: later →
      ¬(run driver earlier node).FailsToConfigure driver key listing)
    (held : node.DirtyIsApplied key) : (run driver events node).DirtyIsApplied key := by
  induction events generalizing node with
  | nil => exact held
  | cons event rest inductionHypothesis =>
    refine inductionHypothesis (step driver node event) ?later ?now
    case later =>
      intro earlier listing later same
      exact succeeds (event :: earlier) listing later (congrArg (event :: ·) same)
    case now =>
      match event with
      | .awaitSession => exact held
      | .resume => exact held
      | .recordHealth results => exact held
      | .updateLocal change => exact held
      | .tick fetched =>
        rcases tick_cases driver fetched node with
          ⟨_, _, ticked⟩ | ⟨_, _, ticked⟩ | ⟨_, _, _, ticked⟩ | ⟨listing, rfl, _, ticked⟩
        · rwa [step, ticked]
        · rw [step, ticked]
          exact held
        · rwa [step, ticked]
        · rw [step, ticked]
          refine fullPass_dirtyIsApplied driver _ node key (fun wanted => ?_) held
          rw [← Bool.not_eq_true]
          exact fun failed => succeeds [] listing rest rfl ⟨wanted, _, _, ticked, failed⟩

/-- In every reachable state, and for every listing with distinct keys in which the path of a
record converges: the tick requests the removal of its key exactly if the key is dirty and nothing
is applied for it; and it does not request it if no tick of the run failed to configure the key,
whatever else failed. -/
theorem converging_removed_iff (localNode : LocalNode) (cache : DeviceCache) (applier : Applier)
    (world : World) (events : List NodeEvent) (listing : List PeerRecord)
    (apart : (listing.map PeerRecord.publicKey).Nodup) (record : PeerRecord)
    (method : PeeringMethod) :
    let origin := start localNode cache applier world
    let node := run driver events origin
    let peers := prepare node.localNode listing
    let removal := ∃ exchange ∈ node.tickExchanges driver (.ok listing),
      exchange.request = .remove record.publicKey
    record ∈ peers →
      PeerPath.select node.localNode record (node.cache.relayHealthyAmong peers) =
        .converging method →
      (removal ↔ record.publicKey ∈ node.reconciler.dirty ∧
        node.reconciler.applied.get? record.publicKey = none) ∧
      ((∀ earlier previous later, events = earlier ++ .tick (.ok previous) :: later →
        ¬(run driver earlier origin).FailsToConfigure driver record.publicKey previous) →
        ¬removal) := by
  intro origin node peers removal member converges
  have keyed : Keyed node.reconciler.applied :=
    run_keyed driver localNode cache applier world events
  have desired := desired_of_converging peers node keyed
    (prepare_map_nodup node.localNode listing PeerRecord.publicKey apart) record member method
    converges
  have decided : removal ↔ record.publicKey ∈ node.reconciler.dirty ∧
      node.reconciler.applied.get? record.publicKey = none := by
    simp only [removal, tickExchanges_eq]
    cases must : node.reconciler.mustRun node.localNode node.cache peers with
    | false =>
      have clean := ((mustRun_eq_false_iff _ _ _ _).mp must).2.2.1
      simp [clean]
    | true =>
      rw [if_pos rfl, removal_requested_iff, desired]
      exact and_congr_left fun vacant => or_iff_left (not_not_intro vacant)
  refine ⟨decided, ?_⟩
  intro succeeds removed
  obtain ⟨dirty, vacant⟩ := decided.mp removed
  have held : origin.DirtyIsApplied record.publicKey := by
    intro marked
    cases marked
  exact run_dirtyIsApplied driver record.publicKey events origin succeeds held dirty vacant

/-- The removal of a device fails, and when it is listed again its endpoint is not finished. The
device is dirty and converges, and it is not removed. -/
theorem converging_spared_after_failed_removal :
    let node := run ScriptedTunnel.driver
      [.tick (.ok [Sample.device "2.2.2.2:51820"]), .tick (.ok [])]
      (start Sample.home {} {} { script := [false, false, false, true] })
    Sample.key 1 ∈ node.reconciler.dirty ∧
      PeerPath.select node.localNode (Sample.device "")
        (node.cache.relayHealthyAmong (prepare node.localNode [Sample.device ""])) =
          .converging .reflexive ∧
      ¬∃ exchange ∈ node.tickExchanges ScriptedTunnel.driver (.ok [Sample.device ""]),
        exchange.request = .remove (Sample.key 1) := by
  intro node
  have converges : PeerPath.select node.localNode (Sample.device "")
      (node.cache.relayHealthyAmong (prepare node.localNode [Sample.device ""])) =
        .converging .reflexive := by decide +kernel
  obtain ⟨_, spared⟩ := converging_removed_iff ScriptedTunnel.driver Sample.home {} {}
    { script := [false, false, false, true] }
    [.tick (.ok [Sample.device "2.2.2.2:51820"]), .tick (.ok [])] [Sample.device ""]
    (List.nodup_singleton _) (Sample.device "") .reflexive (by decide +kernel) converges
  refine ⟨by decide +kernel, converges, spared ?_⟩
  rintro earlier previous later split ⟨wanted, report, after, ticked, failed⟩
  match earlier with
  | [] =>
    obtain ⟨rfl, rfl⟩ : previous = [Sample.device "2.2.2.2:51820"] ∧ later = [.tick (.ok [])] := by
      simpa [eq_comm] using split
    have reported : ((run ScriptedTunnel.driver []
        (start Sample.home {} {} { script := [false, false, false, true] })).tick
          ScriptedTunnel.driver (.ok [Sample.device "2.2.2.2:51820"])).1.toOption.any
            (fun report => report.apply.failed (Sample.key 1)) = false := by decide +kernel
    rw [ticked] at reported
    exact absurd failed (Bool.eq_false_iff.mp reported)
  | [first] =>
    obtain ⟨rfl, rfl, rfl⟩ : first = .tick (.ok [Sample.device "2.2.2.2:51820"]) ∧ previous = [] ∧
        later = [] := by simpa [eq_comm] using split
    exact wanted (by decide +kernel)
  | _ :: _ :: _ => simp at split

/-- The configuration of a device reaches the tunnel, but one of its routes is not added. When the
endpoint of the device is unfinished in the next listing, the device converges and its peer, which
is in the tunnel, is removed. -/
theorem half_configured_peer_removed :
    let node := run ScriptedTunnel.driver [.tick (.ok [Sample.device "2.2.2.2:51820"])]
      (start Sample.home {} {} { script := [false, false, true] })
    let after := (node.tick ScriptedTunnel.driver (.ok [Sample.device ""])).2
    Sample.device "" ∈ prepare node.localNode [Sample.device ""] ∧
      PeerPath.select node.localNode (Sample.device "")
        (node.cache.relayHealthyAmong (prepare node.localNode [Sample.device ""])) =
          .converging .reflexive ∧
      (ScriptedTunnel.peerAt node.world (Sample.key 1)).isSome = true ∧
      ⟨.remove (Sample.key 1), true⟩ ∈
        node.tickExchanges ScriptedTunnel.driver (.ok [Sample.device ""]) ∧
      ScriptedTunnel.peerAt after.world (Sample.key 1) = none := by
  decide +kernel

end Node

end MeshNode
