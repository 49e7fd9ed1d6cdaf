import MeshNode.Proofs.AppliedPeers
import MeshNode.Proofs.CacheAgreement

/-!
# The verdict on the relays

Whether a relay is healthy decides only what goes through it. Take one reachable node and plan
for one listing twice, under a good and under a bad verdict. A device is either dialled or
waited for under both verdicts alike, or it goes through the relay under the good one and is
out of reach under the bad one. The two plans desire peers for the same keys, the same peers
but for the relays, and a relay's peer differs in the prefixes that are carried for others and
that it does not have of its own.

So a relay that fails its probe is not removed for it: it stays in the tunnel and in the
snapshot, where it is probed again.
-/

namespace MeshNode

namespace Reconciler

section Verdict

variable (node : LocalNode) (applied : Table PublicKey TunnelPeer)

/-- Nothing goes through the relays under a bad verdict. -/
theorem relayedChildren_bad (peers : List PeerRecord) :
    relayedChildren (pathsOf node peers false) = [] := by
  rw [relayedChildren, List.flatMap_eq_nil_iff]
  intro pair member
  obtain ⟨record, _, rfl⟩ := List.mem_map.mp member
  cases selected : PeerPath.select node record false with
  | viaRelay child => cases (of_select_viaRelay node false record child selected).2.1
  | direct config => rfl
  | converging method => rfl
  | unreachable => rfl

/-- The configuration that a path asks for does not depend on the verdict. -/
theorem configOf?_verdict (record : PeerRecord) (relayHealthy : Bool) :
    configOf? applied record (PeerPath.select node record relayHealthy) =
      configOf? applied record (PeerPath.select node record false) := by
  rcases select_verdict node record with ⟨method, socket, dialled⟩ | ⟨_, decided⟩
  · rw [dialled, dialled]
  · rw [decided, decided]
    cases relayHealthy <;> rfl

/-- What a path asks for has distinct prefixes if all that is applied has. -/
theorem distinct_of_configOf? (record : PeerRecord) (relayHealthy : Bool)
    (apart : ∀ key peer, applied.get? key = some peer → Network.Distinct peer.allowed)
    (config : TunnelPeer)
    (asked : configOf? applied record (PeerPath.select node record relayHealthy) = some config) :
    Network.Distinct config.allowed := by
  cases selected : PeerPath.select node record relayHealthy with
  | direct dialled =>
    simp only [selected, configOf?, Option.some.injEq] at asked
    exact asked ▸ distinct_of_select_direct node relayHealthy record dialled selected
  | converging method =>
    simp only [selected, configOf?] at asked
    exact apart record.publicKey config asked
  | viaRelay child => simp [selected, configOf?] at asked
  | unreachable => simp [selected, configOf?] at asked

end Verdict

end Reconciler

namespace Node

open Reconciler

variable {World : Type}

/-- What a full pass over prepared peers plans under a given verdict on their relays. -/
def planUnder (relayHealthy : Bool) (peers : List PeerRecord) (node : Node World) : Plan :=
  plan node.reconciler.applied (pathsOf node.localNode peers relayHealthy)

section Plans

variable (peers : List PeerRecord) (node : Node World) (keyed : Keyed node.reconciler.applied)
  (apart : (peers.map PeerRecord.publicKey).Nodup)

include keyed apart

/-- What is planned for the key of a record is what its path asks for, with the children of the
verdict if it is a relay. -/
theorem desired_planUnder (relayHealthy : Bool) (record : PeerRecord) (member : record ∈ peers) :
    (node.planUnder relayHealthy peers).desired.get? record.publicKey =
      (configOf? node.reconciler.applied record
        (PeerPath.select node.localNode record false)).map
          (carryChildren record
            (relayedChildren (pathsOf node.localNode peers relayHealthy))) := by
  rw [← configOf?_verdict node.localNode node.reconciler.applied record relayHealthy]
  exact desired_of_mem_paths node.reconciler.applied _ (pathsOf node.localNode peers relayHealthy)
    (by rwa [publicKeys_pathsOf]) (asksOwnKey_pathsOf node.localNode _ _ keyed _ peers) _
    (List.mem_map.mpr ⟨record, member, rfl⟩)

/-- A key is desired exactly if the path to one of the records asks for it. -/
theorem desired_planUnder_isSome_iff (relayHealthy : Bool) (key : PublicKey) :
    (node.planUnder relayHealthy peers).desired.contains key = true ↔
      ∃ record ∈ peers, record.publicKey = key ∧ (configOf? node.reconciler.applied record
        (PeerPath.select node.localNode record false)).isSome = true := by
  constructor
  · intro desired
    obtain ⟨config, found⟩ := (Table.contains_iff _ key).mp desired
    have standing : config.publicKey = key := plan_keyed _ _ key config found
    obtain ⟨pair, member, asked⟩ := planThrough_asked _ _ _ key config found
    have own := asksOwnKey_pathsOf node.localNode relayHealthy node.reconciler.applied keyed _
      peers pair member config asked
    obtain ⟨record, recordMember, rfl⟩ := List.mem_map.mp member
    refine ⟨record, recordMember, own.symm.trans standing, ?_⟩
    obtain ⟨base, based, _⟩ := Option.map_eq_some_iff.mp asked
    rw [← configOf?_verdict node.localNode node.reconciler.applied record relayHealthy, based]
    rfl
  · rintro ⟨record, member, rfl, asks⟩
    rw [Table.contains, desired_planUnder peers node keyed apart relayHealthy record member,
      Option.isSome_map]
    exact asks

end Plans

theorem planFor_eq_planUnder (peers : List PeerRecord) (node : Node World) :
    node.planFor peers = node.planUnder (node.cache.relayHealthyAmong peers) peers := rfl

variable (driver : Driver World)

/-- Take any reachable node, with any local node in its place, and any listing with distinct keys.
The verdict on the relays picks one of two plans. The path to a device is direct or converging
under both, and then the same, or it goes through the relay under the good verdict and nowhere
under the bad one. Both plans desire peers for the same keys, the same peers for all but relays,
and for a relay peers that differ in the children alone: these are what the devices advertise that
go through the relay under the good verdict, truncated, the first of equal ones kept, and then
those of them that are not among its prefixes follow these. So no key is removed for the verdict,
and every record stays in the snapshot. -/
theorem verdict_moves_relayed_only (localNode : LocalNode) (cache : DeviceCache)
    (applier : Applier) (world : World) (events : List NodeEvent) (current : LocalNode)
    (listing : List PeerRecord) (apart : (listing.map PeerRecord.publicKey).Nodup) :
    let node := { run driver events (start localNode cache applier world) with
      localNode := current }
    let peers := prepare current listing
    let good := node.planUnder true peers
    let bad := node.planUnder false peers
    let children := (((peers.filter fun record =>
      (PeerPath.select current record true).isRelayed).flatMap
        PeerRecord.advertised).map Network.truncate).eraseDups
    node.planFor peers = (if node.cache.relayHealthyAmong peers then good else bad) ∧
      (∀ record,
        let path := PeerPath.select current record
        (path true = path false ∧
            ((∃ config, path true = .direct config) ∨ ∃ method, path true = .converging method)) ∨
          (path true = .viaRelay record.advertised ∧ path false = .unreachable)) ∧
      (∀ key, good.desired.contains key = bad.desired.contains key) ∧
      (∀ record ∈ peers, record.relay = false →
        good.desired.get? record.publicKey = bad.desired.get? record.publicKey) ∧
      (∀ record ∈ peers, record.relay = true →
        good.desired.get? record.publicKey =
          (bad.desired.get? record.publicKey).map fun config =>
            { config with
              allowed := config.allowed ++ children.filter fun child => child ∉ config.allowed }) ∧
      node.reconciler.toRemove good.desired = node.reconciler.toRemove bad.desired ∧
      ∀ id, (good.entries.get? id).map CacheEntry.record =
        (bad.entries.get? id).map CacheEntry.record := by
  intro node peers good bad children
  have keyed : Keyed node.reconciler.applied :=
    run_keyed driver localNode cache applier world events
  have keysApart : (peers.map PeerRecord.publicKey).Nodup :=
    prepare_map_nodup current listing PeerRecord.publicKey apart
  have asked := desired_planUnder peers node keyed keysApart
  have sameKeys : ∀ key, good.desired.contains key = bad.desired.contains key := by
    intro key
    rw [Bool.eq_iff_iff, desired_planUnder_isSome_iff peers node keyed keysApart,
      desired_planUnder_isSome_iff peers node keyed keysApart]
  refine ⟨?picked, fun record => ?paths, sameKeys, fun record member ordinary => ?ordinary,
    fun record member relay => ?relays, ?removed, fun id => ?records⟩
  case picked =>
    cases verdict : node.cache.relayHealthyAmong peers <;>
      rw [planFor_eq_planUnder, verdict] <;> rfl
  case paths =>
    rcases select_verdict current record with ⟨method, socket, dialled⟩ | ⟨_, decided⟩
    · refine Or.inl ⟨(dialled true).trans (dialled false).symm, ?_⟩
      cases socket with
      | some endpoint => exact Or.inl ⟨_, dialled true⟩
      | none => exact Or.inr ⟨_, dialled true⟩
    · exact Or.inr ⟨decided true, decided false⟩
  case ordinary =>
    rw [asked true record member, asked false record member]
    refine Option.map_congr fun config _ => ?_
    rw [carryChildren_of_ordinary _ _ _ ordinary, carryChildren_of_ordinary _ _ _ ordinary]
  case relays =>
    -- Without children a relay carries nothing besides what it is wanted with.
    have bare : ∀ config, carryChildren record [] config = config := by simp [carryChildren]
    rw [asked true record member, asked false record member, relayedChildren_bad, Option.map_map]
    refine Option.map_congr fun config found => ?_
    have own : Network.Distinct config.allowed :=
      distinct_of_configOf? current node.reconciler.applied record false
        (run_applied_distinct driver localNode cache applier world events) config found
    rw [Function.comp_apply, bare, carryChildren_of_relay record _ config relay own,
      relayedChildren_pathsOf, Network.distinct_eq_eraseDups]
  case removed => simp only [toRemove, sameKeys]
  case records =>
    have idsApart : (peers.map PeerRecord.id).Nodup := prepare_ids_nodup current listing
    exact (plan_records peers node.reconciler.applied current true idsApart id).trans
      (plan_records peers node.reconciler.applied current false idsApart id).symm

section Examples

open Sample

/-- A relay whose endpoint is unfinished keeps its configuration, with the network of a device that
has left. Another device needs the relay: under the good verdict the relay carries its network
as well, and under the bad one the relay stays as it is. -/
theorem kept_relay_survives_verdict :
    let listing := [relay "", hidden 3]
    let good := served.planUnder true listing
    let bad := served.planUnder false listing
    (listing.map PeerRecord.publicKey).Nodup ∧
      bad.desired.get? (key 1) = served.reconciler.applied.get? (key 1) ∧
      (bad.desired.get? (key 1)).map TunnelPeer.allowed = some [network 1, subnet 2] ∧
      (good.desired.get? (key 1)).map TunnelPeer.allowed = some [network 1, subnet 2, subnet 3] ∧
      served.reconciler.toRemove good.desired = served.reconciler.toRemove bad.desired := by
  intro listing good bad
  have distinctKeys : (listing.map PeerRecord.publicKey).Nodup := by decide
  have prepared : prepare served.localNode listing = listing :=
    prepare_served listing (by decide) (by decide)
  have kept : bad.desired.get? (key 1) = served.reconciler.applied.get? (key 1) ∧
      (bad.desired.get? (key 1)).map TunnelPeer.allowed = some [network 1, subnet 2] := by
    simp only [bad, served_eq]
    decide +kernel
  obtain ⟨_, _, _, _, relays, removed, _⟩ := verdict_moves_relayed_only ScriptedTunnel.driver
    home {} {} {} [.tick (.ok [relay "2.2.2.2:51820", hidden 2])] served.localNode listing
    distinctKeys
  rw [prepared] at relays removed
  refine ⟨distinctKeys, kept.1, kept.2, ?_, removed⟩
  obtain ⟨config, found, allowed⟩ := Option.map_eq_some_iff.mp kept.2
  refine (congrArg (Option.map _) (relays (relay "") List.mem_cons_self rfl)).trans ?_
  refine (congrArg (fun bare => Option.map _ (Option.map _ bare)) found).trans ?_
  simp only [Option.map_some, allowed]
  decide +kernel

end Examples

end Node

end MeshNode
