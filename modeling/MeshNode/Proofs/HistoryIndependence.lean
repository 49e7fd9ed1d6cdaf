import MeshNode.Proofs.ShortCut

/-!
# A clean tick forgets the past

Whatever a node went through, a tick without failures leaves it with the plan of that
tick: the planned snapshot, and applied what is desired. This holds of a full pass, and
of a tick that finds nothing to do since such a tick leaves what the pass would.

The plan itself looks at the past in one place. A converging peer keeps the
configuration that is applied for it; every other path is chosen from the local node,
the listing and the verdict on the relays. Without converging peers two nodes that
agree on these three therefore end alike, one perhaps by the short cut and the other
over a tunnel that it had to repair first.
-/

namespace MeshNode

/-- Two local nodes that differ at most in their generations. -/
def LocalNode.Alike (one other : LocalNode) : Prop :=
  other = { one with generation := other.generation }

namespace Reconciler

theorem prepare_alike {one other : LocalNode} (alike : one.Alike other)
    (listing : List PeerRecord) : prepare other listing = prepare one listing := by
  rw [alike]
  rfl

theorem pathsOf_alike {one other : LocalNode} (alike : one.Alike other)
    (peers : List PeerRecord) (relayHealthy : Bool) :
    pathsOf other peers relayHealthy = pathsOf one peers relayHealthy := by
  rw [alike]
  rfl

/-- Where no path converges, a plan does not depend on what is applied. -/
theorem plan_of_none_converging (one other : Table PublicKey TunnelPeer)
    (paths : List (PeerRecord × PeerPath))
    (decided : ∀ pair ∈ paths, ∀ method, pair.2 ≠ .converging method) :
    plan one paths = plan other paths := by
  refine planThrough_congr one (relayedChildren paths) other paths ?_
  rintro ⟨peer, path⟩ member
  cases path with
  | converging method => exact absurd rfl (decided _ member method)
  | direct config => rfl
  | viaRelay child => rfl
  | unreachable => rfl

end Reconciler

namespace Node

open Reconciler

section Settled

variable {World : Type} (driver : Driver World) {locals : List LocalNode} {node : Node World}

/-- A tick with a listing that reports no failure leaves the planned snapshot and applies what is
desired, also where it finds nothing to do. -/
theorem Traced.settled_of_clean (traced : node.Traced locals)
    (told : node.localNode.ToldApart locals) (listing : List PeerRecord)
    (apart : (listing.map PeerRecord.publicKey).Nodup) (report : TickReport) (after : Node World)
    (ticked : node.tick driver (.ok listing) = (.ok report, after))
    (clean : report.apply.isClean = true) :
    after.cache.snapshot = (node.planFor (prepare node.localNode listing)).entries ∧
      ∀ key, after.reconciler.applied.get? key =
        (node.planFor (prepare node.localNode listing)).desired.get? key := by
  have passed : after = (node.fullPass driver (prepare node.localNode listing)).2 :=
    (congrArg Prod.snd ticked).symm.trans (traced.tick_listing driver node told listing apart).1
  have remembers := fullPass_remembers driver node (prepare node.localNode listing)
    (prepare_ascending node.localNode listing) traced.keyed
  have settled : after.reconciler.dirty = [] := by
    cases must : node.reconciler.mustRun node.localNode node.cache
        (prepare node.localNode listing) with
    | false =>
      rw [(tick_of_idle driver node listing must).1] at ticked
      rw [← (Prod.mk.inj ticked).2]
      exact ((mustRun_eq_false_iff _ _ _ _).mp must).2.2.1
    | true =>
      have full : node.tick driver (.ok listing) =
          (.ok (node.fullPass driver (prepare node.localNode listing)).1,
            (node.fullPass driver (prepare node.localNode listing)).2) := if_pos must
      obtain ⟨reported, _⟩ := Prod.mk.inj (ticked.symm.trans full)
      rw [Except.ok.inj reported] at clean
      rw [passed]
      exact (fullPass_clean driver _ node clean).1
  rw [passed] at settled ⊢
  exact ⟨remembers.snapshot, remembers.applied settled⟩

end Settled

section Alike

variable {A B : Type} (driver : Driver A) (otherDriver : Driver B)

/-- Two nodes that are alike, with one verdict on the relays and no converging peer, have one
plan. -/
theorem planFor_alike (one : Node A) (other : Node B) (alike : one.localNode.Alike other.localNode)
    (peers : List PeerRecord)
    (sameVerdict : other.cache.relayHealthyAmong peers = one.cache.relayHealthyAmong peers)
    (decided : ∀ record ∈ peers, ∀ method,
      PeerPath.select one.localNode record (one.cache.relayHealthyAmong peers) ≠
        .converging method) :
    other.planFor peers = one.planFor peers := by
  rw [planFor, planFor, sameVerdict, pathsOf_alike alike]
  refine plan_of_none_converging _ _ _ fun pair member method => ?_
  obtain ⟨record, listed, rfl⟩ := List.mem_map.mp member
  exact decided record listed method

/-- Take any two nodes after any runs, neither of which had another local node of the present
generation, over any two tunnels. Where their local nodes are alike and they come to one verdict
on the relays of a listing with distinct identifiers and keys, and no path to its peers converges,
ticks that get this listing in any order and report no failure leave both with the same snapshot,
and with the same peers applied. -/
theorem clean_ticks_agree (localNode otherLocal : LocalNode) (cache otherCache : DeviceCache)
    (applier otherApplier : Applier) (world : A) (otherWorld : B)
    (events otherEvents : List NodeEvent)
    (listing reordered : List PeerRecord) (idsApart : (listing.map PeerRecord.id).Nodup)
    (keysApart : (listing.map PeerRecord.publicKey).Nodup) (same : reordered.Perm listing)
    (report otherReport : TickReport) (after : Node A) (otherAfter : Node B) :
    let one := run driver events (start localNode cache applier world)
    let other := run otherDriver otherEvents
      (start otherLocal otherCache otherApplier otherWorld)
    let peers := prepare one.localNode listing
    one.localNode.ToldApart (NodeEvent.localNodes events localNode) →
      other.localNode.ToldApart (NodeEvent.localNodes otherEvents otherLocal) →
      one.localNode.Alike other.localNode →
      other.cache.relayHealthyAmong peers = one.cache.relayHealthyAmong peers →
      (∀ record ∈ peers, ∀ method,
        PeerPath.select one.localNode record (one.cache.relayHealthyAmong peers) ≠
          .converging method) →
      one.tick driver (.ok listing) = (.ok report, after) → report.apply.isClean = true →
      other.tick otherDriver (.ok reordered) = (.ok otherReport, otherAfter) →
      otherReport.apply.isClean = true →
        after.cache.snapshot = otherAfter.cache.snapshot ∧
          ∀ key, after.reconciler.applied.get? key = otherAfter.reconciler.applied.get? key := by
  intro one other peers told otherTold alike sameVerdict decided ticked clean otherTicked otherClean
  have otherKeysApart : (reordered.map PeerRecord.publicKey).Nodup :=
    (same.map PeerRecord.publicKey).nodup_iff.mpr keysApart
  have samePeers : prepare other.localNode reordered = peers :=
    (prepare_alike alike reordered).trans
      (prepare_perm one.localNode listing reordered idsApart same)
  have traced := run_traced driver localNode cache applier world events
  have otherTraced :=
    run_traced otherDriver otherLocal otherCache otherApplier otherWorld otherEvents
  obtain ⟨snapshot, applied⟩ :=
    traced.settled_of_clean driver told listing keysApart report after ticked clean
  obtain ⟨otherSnapshot, otherApplied⟩ := otherTraced.settled_of_clean otherDriver otherTold
    reordered otherKeysApart otherReport otherAfter otherTicked otherClean
  rw [samePeers, planFor_alike one other alike peers sameVerdict decided]
    at otherSnapshot otherApplied
  exact ⟨snapshot.trans otherSnapshot.symm,
    fun key => (applied key).trans (otherApplied key).symm⟩

/-- One node has applied the listing and takes the short cut; the other saw an unfinished endpoint
first, failed to configure the device and was updated since. After one more tick both are alike. -/
theorem short_cut_and_repair_agree :
    let listing := [Sample.device "2.2.2.2:51820"]
    let one := run ScriptedTunnel.driver [.tick (.ok listing)] (start Sample.home {} {} {})
    let other := run ScriptedTunnel.driver
      [.tick (.ok [Sample.device ""]), .tick (.ok listing), .updateLocal id]
      (start Sample.home {} {} { script := [true] })
    let pass := other.fullPass ScriptedTunnel.driver (prepare other.localNode listing)
    one.tick ScriptedTunnel.driver (.ok listing) = (.ok { outcome := .unchanged }, one) ∧
      other.tick ScriptedTunnel.driver (.ok listing) = (.ok pass.1, pass.2) ∧
      Sample.key 1 ∈ other.reconciler.dirty ∧
      one.cache.snapshot = pass.2.cache.snapshot ∧
      ∀ key, one.reconciler.applied.get? key = pass.2.reconciler.applied.get? key := by
  intro listing one other pass
  have idle : one.reconciler.mustRun one.localNode one.cache
      (prepare one.localNode listing) = false := by decide +kernel
  have must : other.reconciler.mustRun other.localNode other.cache
      (prepare other.localNode listing) = true := by decide +kernel
  have ticked := (tick_of_idle ScriptedTunnel.driver one listing idle).1
  have otherTicked : other.tick ScriptedTunnel.driver (.ok listing) = (.ok pass.1, pass.2) :=
    if_pos must
  have direct : PeerPath.select one.localNode (Sample.device "2.2.2.2:51820")
      (one.cache.relayHealthyAmong (prepare one.localNode listing)) =
        .direct ⟨Sample.key 1, ⟨.v4 0x02020202, 51820, 0⟩, [Sample.network 1], none,
          .reflexive⟩ := by
    decide +kernel
  have decided : ∀ record ∈ prepare one.localNode listing, ∀ method,
      PeerPath.select one.localNode record
        (one.cache.relayHealthyAmong (prepare one.localNode listing)) ≠ .converging method := by
    intro record member method
    rw [List.mem_singleton.mp (mem_of_mem_prepare _ _ record member).1, direct]
    nofun
  have alike : one.localNode.Alike other.localNode := by
    unfold LocalNode.Alike
    decide +kernel
  refine ⟨ticked, otherTicked, by decide +kernel, ?_⟩
  exact clean_ticks_agree ScriptedTunnel.driver ScriptedTunnel.driver Sample.home Sample.home
    {} {} {} {} {} { script := [true] } _ _ listing listing (List.nodup_singleton _)
    (List.nodup_singleton _) (List.Perm.refl _) _ pass.1 one pass.2 (by decide +kernel)
    (by decide +kernel) alike (by decide +kernel) decided ticked rfl otherTicked (by decide +kernel)

/-- Where a run had another local node of the present generation, the short cut may leave what a
node without a past does not apply. -/
theorem clean_ticks_differ_after_rewound :
    let listing := [Sample.device "2.2.2.2:51820"]
    let one := run ScriptedTunnel.driver Sample.rewinding (start Sample.home {} {} {})
    let other := run ScriptedTunnel.driver [] (start (Sample.rewound Sample.home) {} {} {})
    let peers := prepare one.localNode listing
    let pass := other.fullPass ScriptedTunnel.driver peers
    one.localNode.Alike other.localNode ∧
      other.cache.relayHealthyAmong peers = one.cache.relayHealthyAmong peers ∧
      (∀ record ∈ peers, ∀ method,
        PeerPath.select one.localNode record (one.cache.relayHealthyAmong peers) ≠
          .converging method) ∧
      one.tick ScriptedTunnel.driver (.ok listing) = (.ok { outcome := .unchanged }, one) ∧
      other.tick ScriptedTunnel.driver (.ok listing) = (.ok pass.1, pass.2) ∧
      pass.1.apply.isClean = true ∧
      (one.reconciler.applied.get? (Sample.key 1)).isSome = true ∧
      pass.2.reconciler.applied.get? (Sample.key 1) = none := by
  intro listing one other peers pass
  have idle : one.reconciler.mustRun one.localNode one.cache peers = false := by decide +kernel
  have must : other.reconciler.mustRun other.localNode other.cache peers = true := by
    decide +kernel
  have unreachable : PeerPath.select one.localNode (Sample.device "2.2.2.2:51820")
      (one.cache.relayHealthyAmong peers) = .unreachable := by
    decide +kernel
  have alike : one.localNode.Alike other.localNode := by
    unfold LocalNode.Alike
    decide +kernel
  have ticked := (tick_of_idle ScriptedTunnel.driver one listing idle).1
  have otherTicked := tick_of_prepared ScriptedTunnel.driver other listing peers
    (prepare_alike alike listing) must
  refine ⟨alike, by decide +kernel, ?_, ticked, otherTicked, by decide +kernel,
    by decide +kernel, by decide +kernel⟩
  intro record member method
  rw [List.mem_singleton.mp (mem_of_mem_prepare _ _ record member).1, unreachable]
  nofun

end Alike

end Node

end MeshNode
