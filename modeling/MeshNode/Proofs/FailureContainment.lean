import MeshNode.Proofs.RouteRecovery

/-!
# One peer's failure does not touch the others

In one tick the changes of some struck keys are refused, and every other request is
granted. Next to it stands the tick from the same state in which nothing is refused. Both
make the same changes in the same order, and they differ at the struck keys alone: these
are the failures of the one, and they are missing from what it configured and removed.
Every other key is left clean and applied as in the undisturbed tick, and has all its
routes in the tunnel.

Of the routes the last part is the one that could fail, since a struck key keeps the
routes that it relied on and may share them with the others, so that the two ticks do not
look up, add and delete the same routes. It rests on two invariants of runs that do not
mention the undisturbed tick: what is on record is in the tunnel, and a clean key has on
record exactly the routes of what is applied for it.
-/

namespace MeshNode

/-- A key has failed exactly if it stands among the keys of the failures. -/
theorem ApplyReport.failed_iff (report : ApplyReport) (key : PublicKey) :
    report.failed key = true ↔ key ∈ report.failures.map Prod.fst := by
  simp [failed]

namespace ScriptedTunnel

/-- The driver of a scripted tunnel that refuses the changes of struck keys besides. -/
def refusing (struck : PublicKey → Bool) : Driver ScriptedTunnel where
  answer request tunnel :=
    if request.changedKey?.any struck then (.error .notRunning, disturbed request tunnel)
    else driver.answer request tunnel

/-- Refusing changes of peers breaks no law of the routes. -/
theorem holdsRoutes_refusing (struck : PublicKey → Bool) :
    HoldsRoutes (refusing struck) Routed where
  found := holdsRoutes.found
  looked := holdsRoutes.looked
  added := holdsRoutes.added
  deleted := holdsRoutes.deleted
  changed change tunnel other := by
    simp only [refusing]
    split
    · cases change <;> rfl
    · exact holdsRoutes.changed change tunnel other

end ScriptedTunnel

namespace Node

open Reconciler

variable {World : Type}

section Tick

variable (driver : Driver World) (node : Node World) (listing : List PeerRecord)
  (due : node.reconciler.mustRun node.localNode node.cache (prepare node.localNode listing) = true)

include due

/-- A tick that is due makes a full pass. -/
theorem tick_of_due :
    node.tick driver (.ok listing) =
      (.ok (node.fullPass driver (prepare node.localNode listing)).1,
        (node.fullPass driver (prepare node.localNode listing)).2) :=
  if_pos due

theorem tickExchanges_of_due :
    node.tickExchanges driver (.ok listing) =
      node.passExchanges driver (prepare node.localNode listing) := by
  rw [tickExchanges_eq, if_pos due]

end Tick

/-- The keys whose peers a full pass requests to change are those of its changes. -/
theorem changedKeys_passExchanges (driver : Driver World) (peers : List PeerRecord)
    (node : Node World) :
    (peerRequests (node.passExchanges driver peers)).filterMap Request.changedKey? =
      (node.changesFor peers).map Change.key := by
  rw [peerRequests_passExchanges, List.filterMap_map]
  have named : Request.changedKey? ∘ Change.request = some ∘ Change.key :=
    funext Change.changedKey?_request
  rw [named, List.filterMap_eq_map]

/-- A full pass in which just the struck keys are refused leaves every other key clean and applied
as it is desired. -/
theorem fullPass_spares (driver : Driver World) (peers : List PeerRecord) (node : Node World)
    (struck : PublicKey → Bool) (refuses : RefusesJust struck (node.passExchanges driver peers))
    (key : PublicKey) (spared : struck key = false) :
    key ∉ (node.fullPass driver peers).2.reconciler.dirty ∧
      (node.fullPass driver peers).2.reconciler.applied.get? key =
        (node.planFor peers).desired.get? key := by
  obtain ⟨failures, _⟩ := fullPass_report_of_refused driver peers node struck refuses
  obtain ⟨dirty, applied⟩ := fullPass_settles driver peers node key
  have success : (node.fullPass driver peers).1.apply.failed key = false := by
    rw [Bool.eq_false_iff, Ne, ApplyReport.failed_iff, failures, List.mem_filter, spared]
    exact fun listed => Bool.false_ne_true listed.2
  refine ⟨fun marked => ?_, applied success⟩
  rw [dirty.mp marked] at success
  cases success

/-- A clean key of a node in step has in the tunnel every route of what is applied for it. -/
theorem routed_of_applied {routed : World → Network → Prop} {origin : Network → Prop}
    {node : Node (List Exchange × World)} (inStep : node.InStep routed origin)
    (owns : node.OwnsRoutes {}) {key : PublicKey} {peer : TunnelPeer}
    (clean : key ∉ node.reconciler.dirty)
    (applied : node.reconciler.applied.get? key = some peer) (network : Network)
    (member : network ∈ peer.routes) : routed node.world.2 network := by
  rw [← owns.of_applied clean applied] at member
  exact inStep.present network ⟨key, member⟩

/-- A run, and then a tick over another driver: where both drivers hold routes, the tick leaves the
node in step. -/
theorem tick_inStep {history driver : Driver World} {routed : World → Network → Prop}
    (heldBefore : HoldsRoutes history routed) (held : HoldsRoutes driver routed)
    (localNode : LocalNode) (cache : DeviceCache) (world : World) (events : List NodeEvent)
    (fetched : Except ListingError (List PeerRecord)) :
    ∃ after : Node (List Exchange × World),
      after.InStep routed (routed world) ∧
        ((run history events (start localNode cache {} world)).tick driver fetched).2 =
          after.through Prod.snd := by
  let before := run history.logged events (start localNode cache {} world).recording
  have began : before.InStep routed (routed world) :=
    run_inStep heldBefore (routed world) events _
      (recording_inStep routed localNode cache world)
  refine ⟨before.run driver.logged [.tick fetched],
    run_inStep held (routed world) [.tick fetched] before began, ?_⟩
  rw [run_recording history events]
  exact driver.follows_logged.run [.tick fetched] before

/-- After every run, whatever failed in it, take a tick that is due twice: with every request
granted, and with just the changes of the struck keys refused. Both make the same changes. The
failures are the struck keys among the changed ones, and what is configured and removed is what
would have been without them. Every other key is clean and applied as in the undisturbed tick; and
where the tunnel holds routes, every route of what is desired for it is in the tunnel. -/
theorem refusals_contained (history calm troubled : Driver World) (localNode : LocalNode)
    (cache : DeviceCache) (world : World) (events : List NodeEvent) (listing : List PeerRecord)
    (struck : PublicKey → Bool) :
    let node := run history events (start localNode cache {} world)
    let peers := prepare node.localNode listing
    let record := node.tickExchanges troubled (.ok listing)
    node.reconciler.mustRun node.localNode node.cache peers = true →
      AllGranted (node.tickExchanges calm (.ok listing)) →
      RefusesJust struck record →
      ∃ undisturbed undisturbedAfter report after,
        node.tick calm (.ok listing) = (.ok undisturbed, undisturbedAfter) ∧
        node.tick troubled (.ok listing) = (.ok report, after) ∧
        peerRequests record = peerRequests (node.tickExchanges calm (.ok listing)) ∧
        report.apply.failures.map Prod.fst =
          ((peerRequests record).filterMap Request.changedKey?).filter struck ∧
        report.apply.configured = undisturbed.apply.configured.filter (!struck ·) ∧
        report.apply.removed = undisturbed.apply.removed.filter (!struck ·) ∧
        (∀ key, struck key = false →
          key ∉ after.reconciler.dirty ∧
            after.reconciler.applied.get? key =
              undisturbedAfter.reconciler.applied.get? key) ∧
        ∀ routed : World → Network → Prop,
          HoldsRoutes history routed → HoldsRoutes troubled routed →
            ∀ key peer, struck key = false → (node.planFor peers).desired.get? key = some peer →
              ∀ network ∈ peer.allowed, network.length ≠ 0 → routed after.world network := by
  intro node peers record due granted refuses
  have calmTick := tick_of_due calm node listing due
  have troubledTick := tick_of_due troubled node listing due
  have recorded : record = node.passExchanges troubled peers :=
    tickExchanges_of_due troubled node listing due
  rw [recorded] at refuses
  rw [tickExchanges_of_due calm node listing due] at granted
  rw [recorded, tickExchanges_of_due calm node listing due]
  obtain ⟨failures, configured, removed⟩ :=
    fullPass_report_of_refused troubled peers node struck refuses
  obtain ⟨_, allConfigured, allRemoved⟩ :=
    fullPass_report_of_refused calm peers node (fun _ => false) granted.refusesJust
  rw [Bool.not_false, List.filter_true] at allConfigured allRemoved
  refine ⟨_, _, _, _, calmTick, troubledTick, ?requests, ?failures, ?configured, ?removed, ?keys,
    ?routes⟩
  case requests => rw [peerRequests_passExchanges, peerRequests_passExchanges]
  case failures => rw [failures, changedKeys_passExchanges]
  case configured => rw [configured, ← allConfigured]
  case removed => rw [removed, ← allRemoved]
  case keys =>
    intro key spared
    obtain ⟨clean, applied⟩ := fullPass_spares troubled peers node struck refuses key spared
    obtain ⟨_, calmApplied⟩ :=
      fullPass_spares calm peers node (fun _ => false) granted.refusesJust key rfl
    exact ⟨clean, applied.trans calmApplied.symm⟩
  case routes =>
    intro routed heldBefore held key peer spared desired network member proper
    obtain ⟨clean, applied⟩ := fullPass_spares troubled peers node struck refuses key spared
    obtain ⟨after, inStep, left⟩ :=
      tick_inStep heldBefore held localNode cache world events (.ok listing)
    have owns : (node.fullPass troubled peers).2.OwnsRoutes {} :=
      fullPass_ownsRoutes troubled peers node
        (run_ownsRoutes history localNode cache {} world events)
    have same : (node.fullPass troubled peers).2 = after.through Prod.snd :=
      (congrArg Prod.snd troubledTick).symm.trans left
    rw [desired] at applied
    rw [same] at clean applied owns ⊢
    refine routed_of_applied inStep owns clean applied network
      ((peer.mem_routes_iff network).mpr ⟨member, ?_⟩)
    rwa [Network.isDefaultRoute, beq_eq_false_iff_ne]

/-- A device leaves the listing and its removal is refused, so that it keeps its route. The device
that is listed in its place shares this route and has one more, and both are in the tunnel. -/
theorem refused_removal_contained :
    let newcomer : PeerRecord :=
      { Sample.device "3.3.3.3:51820" with
        id := ⟨2⟩, publicKey := Sample.key 2, allowed := [Sample.network 1, Sample.network 2] }
    let struck (key : PublicKey) : Bool := key = Sample.key 1
    let node := run ScriptedTunnel.driver [.tick (.ok [Sample.device "2.2.2.2:51820"])]
      (start Sample.home {} {} {})
    ∃ report after,
      node.tick (ScriptedTunnel.refusing struck) (.ok [newcomer]) = (.ok report, after) ∧
        report.apply.failures.map Prod.fst = [Sample.key 1] ∧
        Sample.key 2 ∉ after.reconciler.dirty ∧
        ScriptedTunnel.Routed after.world (Sample.network 1) ∧
        ScriptedTunnel.Routed after.world (Sample.network 2) := by
  intro newcomer struck node
  obtain ⟨_, _, report, after, _, ticked, _, failures, _, _, keys, routes⟩ :=
    refusals_contained ScriptedTunnel.driver ScriptedTunnel.driver (ScriptedTunnel.refusing struck)
      Sample.home {} {} [.tick (.ok [Sample.device "2.2.2.2:51820"])] [newcomer] struck
      (by decide +kernel) (by unfold AllGranted; decide +kernel)
      (by unfold RefusesJust; decide +kernel)
  have routed := routes ScriptedTunnel.Routed ScriptedTunnel.holdsRoutes
    (ScriptedTunnel.holdsRoutes_refusing struck) (Sample.key 2)
    ⟨Sample.key 2, ⟨.v4 0x03030303, 51820, 0⟩, [Sample.network 1, Sample.network 2], none,
      .reflexive⟩ (by decide +kernel) (by decide +kernel)
  refine ⟨report, after, ticked, failures.trans (by decide +kernel),
    (keys (Sample.key 2) (by decide +kernel)).1, ?_, ?_⟩
  · exact routed (Sample.network 1) List.mem_cons_self (by decide)
  · exact routed (Sample.network 2) (List.mem_cons_of_mem _ List.mem_cons_self) (by decide)

end Node

end MeshNode
