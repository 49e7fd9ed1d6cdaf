import MeshNode.Proofs.Runs
import MeshNode.Proofs.TunnelLaws

/-!
# The tunnel agrees with what is applied

Of a driver that holds peers the reconciler always knows what the tunnel has: for
every key that is not dirty it is what is applied, whatever failed and in whatever
order. So a peer in the tunnel is applied or dirty, and none is left behind.

One pass is enough to see why. A change that succeeded left its key as desired, and
is settled so; a change that failed makes its key dirty; and a key without a change
was clean and as desired, in the tunnel as in memory.
-/

namespace MeshNode

variable {World : Type} {driver : Driver World}
  {peerAt : World → PublicKey → Option TunnelPeer}

namespace HoldsPeers

/-- What a single change leaves at its key, if it does not fail. -/
theorem carryOut_self (holds : HoldsPeers driver peerAt) (applier : Applier) (world : World)
    (change : Change) (success : (Applier.carryOut driver applier world change).1 = none) :
    peerAt (Applier.carryOut driver applier world change).2.2 change.key = change.wanted := by
  have asked : (driver.answer change.request world).1.isOk = true :=
    Applier.granted_of_carryOut driver applier world change success
  rw [holds.routeBlind.carryOut, holds.granted change world asked]

/-- A change touches no other key, failed or not. -/
theorem carryOut_other (holds : HoldsPeers driver peerAt) (applier : Applier) (world : World)
    (change : Change) (key : PublicKey) (other : key ≠ change.key) :
    peerAt (Applier.carryOut driver applier world change).2.2 key = peerAt world key := by
  rw [holds.routeBlind.carryOut, holds.others change world key other]

/-- A change moves the tunnel, and what is reported, at its own key alone. -/
theorem movesOwnKey (holds : HoldsPeers driver peerAt) :
    Change.MovesOwnKey (Applier.Pass.change driver) fun pass key =>
      (peerAt pass.world key, pass.report.failed key) := by
  intro pass change key other
  have left : peerAt (pass.change driver change).world key = peerAt pass.world key := by
    rw [Applier.change_world, holds.carryOut_other _ _ change key other]
  exact Prod.ext left (Applier.failed_movesOwnKey driver pass change key other)

/-- Where no key is changed twice, a change that has not failed in the end left its key as it was
wanted. -/
theorem foldl_change_self (holds : HoldsPeers driver peerAt) (changes : List Change)
    (pass : Applier.Pass World) (apart : (changes.map Change.key).Nodup) (change : Change)
    (member : change ∈ changes)
    (success : (changes.foldl (Applier.Pass.change driver) pass).report.failed change.key =
      false) :
    peerAt (changes.foldl (Applier.Pass.change driver) pass).world change.key =
      change.wanted := by
  obtain ⟨before, same⟩ := holds.movesOwnKey.foldl_self changes pass apart change member
  obtain ⟨left, reported⟩ := Prod.mk.inj same
  rw [reported, Applier.change_failed] at success
  have carried : (Applier.carryOut driver before.applier before.world change).1 = none := by
    simpa using (Bool.or_eq_false_iff.mp success).2
  rw [left, Applier.change_world, holds.carryOut_self _ _ change carried]

end HoldsPeers

namespace Node

open Reconciler

/-- Off the dirty keys the tunnel has what is applied. -/
def Agrees (peerAt : World → PublicKey → Option TunnelPeer) (node : Node World) : Prop :=
  ∀ key, key ∉ node.reconciler.dirty →
    peerAt node.world key = node.reconciler.applied.get? key

/-- A full pass keeps tunnel and memory in agreement. -/
theorem fullPass_agrees (holds : HoldsPeers driver peerAt) (peers : List PeerRecord)
    (node : Node World) (agrees : node.Agrees peerAt) :
    (node.fullPass driver peers).2.Agrees peerAt := by
  intro key clean
  obtain ⟨dirty, applied⟩ := fullPass_settles driver peers node key
  have success : (node.passOver driver peers).report.failed key = false :=
    Bool.eq_false_iff.mpr fun failed => clean (dirty.mpr failed)
  have settled : (node.fullPass driver peers).2.reconciler.applied.get? key =
      (node.planFor peers).desired.get? key := applied success
  have world : (node.fullPass driver peers).2.world =
      ((node.changesFor peers).foldl (Applier.Pass.change driver)
        ⟨{}, node.reconciler.applier, node.world⟩).world :=
    congrArg Applier.Pass.world (passOver_eq_foldl driver peers node)
  rw [passOver_eq_foldl] at success
  rw [settled, world]
  by_cases changed : key ∈ (node.changesFor peers).map Change.key
  · obtain ⟨change, member, rfl⟩ := List.mem_map.mp changed
    rw [holds.foldl_change_self _ _ (changesFor_nodup peers node) change member success]
    exact node.reconciler.wanted_of_mem_difference _ (plan_keyed _ _) change member
  · obtain ⟨wasClean, asDesired⟩ :=
      node.reconciler.settled_of_not_mem_difference _ (plan_keyed _ _) key changed
    have untouched := (Prod.mk.inj (holds.movesOwnKey.foldl_other _
      ⟨{}, node.reconciler.applier, node.world⟩ key changed)).1
    rw [untouched, agrees key wasClean]
    exact asDesired

/-- Every run from an empty tunnel keeps tunnel and memory in agreement. Only full passes touch
either. -/
theorem run_agrees (holds : HoldsPeers driver peerAt) (localNode : LocalNode)
    (cache : DeviceCache) (applier : Applier) (world : World)
    (vacant : ∀ key, peerAt world key = none) (events : List NodeEvent) :
    (run driver events (start localNode cache applier world)).Agrees peerAt := by
  refine run_induction driver events ?passed ?awaited ?resumed ?recorded ?updated _ ?initial
  case passed => exact fun listing node agrees => fullPass_agrees holds _ node agrees
  case awaited => exact fun node agrees => agrees
  case resumed => exact fun node agrees => agrees
  case recorded => exact fun results node agrees => agrees
  case updated => exact fun change _ node agrees => agrees
  case initial => exact fun key _ => vacant key

/-- After every run over a tunnel that started without peers, the tunnel has for each key that is
not dirty exactly what is applied, and so every peer in the tunnel is applied or dirty. -/
theorem tunnel_agrees (holds : HoldsPeers driver peerAt) (localNode : LocalNode)
    (cache : DeviceCache) (applier : Applier) (world : World)
    (vacant : ∀ key, peerAt world key = none) (events : List NodeEvent) :
    let node := run driver events (start localNode cache applier world)
    (∀ key, key ∉ node.reconciler.dirty →
        peerAt node.world key = node.reconciler.applied.get? key) ∧
      ∀ key peer, peerAt node.world key = some peer →
        node.reconciler.applied.get? key = some peer ∨ key ∈ node.reconciler.dirty := by
  have agrees := run_agrees holds localNode cache applier world vacant events
  refine ⟨agrees, ?_⟩
  intro key peer present
  by_cases dirty : key ∈
      (run driver events (start localNode cache applier world)).reconciler.dirty
  · exact Or.inr dirty
  · exact Or.inl ((agrees key dirty).symm.trans present)

/-- A scripted tunnel fails the first request, which leaves its only device dirty; the second
tick configures the device again, and tunnel and memory agree on it. -/
theorem agrees_after_retry :
    let node := run ScriptedTunnel.driver
      [.tick (.ok [Sample.device "2.2.2.2:51820"]), .tick (.ok [Sample.device "2.2.2.2:51820"])]
      (start Sample.home {} {} { script := [true] })
    Sample.key 1 ∉ node.reconciler.dirty ∧
      (node.reconciler.applied.get? (Sample.key 1)).isSome = true ∧
      ScriptedTunnel.peerAt node.world (Sample.key 1) =
        node.reconciler.applied.get? (Sample.key 1) := by
  intro node
  have vacant : ∀ key, ScriptedTunnel.peerAt { script := [true] } key = none := fun _ => rfl
  have clean : Sample.key 1 ∉ node.reconciler.dirty := by decide +kernel
  have applied : (node.reconciler.applied.get? (Sample.key 1)).isSome = true := by decide +kernel
  exact ⟨clean, applied, (tunnel_agrees ScriptedTunnel.holdsPeers Sample.home {} {}
    { script := [true] } vacant _).1 (Sample.key 1) clean⟩

end Node

end MeshNode
