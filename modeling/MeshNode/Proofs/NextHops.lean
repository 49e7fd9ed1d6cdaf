import MeshNode.Proofs.CacheAgreement
import MeshNode.Proofs.RelayedPrefixes

/-!
# Next hops of relayed devices

A device that is shown as reached through the relay is in the tunnel only by the prefixes of
relays. Whether there is a relay for it is decided by the last probes alone, and a relay that
was never probed is good. Nothing asks whether that relay has a peer, nor what this peer may
use. So a prefix of the device has a next hop if two things come together: a relay that is
dialled or that keeps a peer from before, and a prefix of this peer that covers it. What the
device advertises is carried by every such relay. Its own prefixes are left to the
organization's network, which a dialled relay has only where it is known, and which nothing
compares with the devices.

The main statement says exactly when there is a next hop.
-/

namespace MeshNode

namespace Network

/-- All addresses of one prefix are addresses of another. -/
def Covers (wide narrow : Network) : Prop :=
  ∀ address, narrow.contains address = true → wide.contains address = true

theorem covers_refl (network : Network) : network.Covers network := fun _ => id

/-- A prefix covers a longer one whose address it contains. -/
theorem covers_of_contains (wide narrow : Network) (shorter : wide.length ≤ narrow.length)
    (inside : wide.contains narrow.address = true) : wide.Covers narrow := by
  intro address contained
  simp only [contains, Bool.and_eq_true, beq_iff_eq] at inside contained ⊢
  obtain ⟨sameFamily, sameFront⟩ := inside
  obtain ⟨ownFamily, ownFront⟩ := contained
  refine ⟨sameFamily.trans ownFamily, sameFront.trans ?_⟩
  -- Numbers that agree in the bits of the longer prefix agree in those of the shorter one.
  have fewer : narrow.address.family.width - narrow.length ≤
      wide.address.family.width - wide.length := by
    rw [sameFamily]
    omega
  obtain ⟨more, hostBits⟩ := Nat.exists_eq_add_of_le fewer
  rw [hostBits, Nat.shiftRight_add, Nat.shiftRight_add, ownFront]

/-- A prefix that covers another contains its address. -/
theorem Covers.contains_address {wide narrow : Network} (covers : wide.Covers narrow) :
    wide.contains narrow.address = true :=
  covers narrow.address (by simp [contains])

end Network

namespace Reconciler

/-- An entry that names the relay, where no peer is applied so, is for a path through the relay. -/
theorem relayed_of_entryOf (node : LocalNode) (relayHealthy : Bool)
    (applied : Table PublicKey TunnelPeer) (children : List Network) (record : PeerRecord) :
    let path := PeerPath.select node record relayHealthy
    let config := desiredConfig? applied children record path
    (∀ peer, config = some peer → peer.method ≠ .viaRelay) →
      (entryOf record path config).method = some .viaRelay →
      path = .viaRelay record.advertised := by
  intro path config direct named
  have shows : (entryOf record path config).Shows path config :=
    shows_entryOf node relayHealthy applied children record
  cases asked : config with
  | some peer =>
    have method := (shows.configured peer asked).1.symm.trans named
    exact absurd (Option.some.inj method) (direct peer asked)
  | none =>
    obtain ⟨child, relayed⟩ := (shows.viaRelay asked).mp named
    exact (of_select_viaRelay node relayHealthy record child relayed).1 ▸ relayed

end Reconciler

namespace Node

open Reconciler

variable {World : Type} (driver : Driver World)

/-- A relay of a listing is applied with a prefix that covers a network. -/
def HasNextHop (listing : List PeerRecord) (node : Node World) (network : Network) : Prop :=
  ∃ record ∈ listing, record.relay = true ∧ ∃ peer,
    node.reconciler.applied.get? record.publicKey = some peer ∧
      ∃ wide ∈ peer.allowed, wide.Covers network

/-- The prefixes that a pass over prepared peers leaves a relay with before it carries any for
others. A relay has none if nothing is applied for it after the pass. -/
inductive OwnReach (peers : List PeerRecord) (node : Node World) (record : PeerRecord) :
    List Network → Prop
  /-- A dialled relay has the organization's network, or its own prefixes where that is not known,
  and what it advertises. -/
  | dialled (config : TunnelPeer)
      (selected : PeerPath.select node.localNode record (node.cache.relayHealthyAmong peers) =
        .direct config) :
      OwnReach peers node record (PeerPath.allowedFor node.localNode record .relayPeer)
  /-- A relay that converges has what is applied for it. -/
  | kept (config : TunnelPeer) (method : PeeringMethod)
      (selected : PeerPath.select node.localNode record (node.cache.relayHealthyAmong peers) =
        .converging method)
      (applied : node.reconciler.applied.get? record.publicKey = some config) :
      OwnReach peers node record config.allowed

section Pass

variable (peers : List PeerRecord) (node : Node World)

/-- What a dialled relay may use is its own reach. -/
theorem allowed_of_relay (record : PeerRecord) (relay : record.relay = true) (relayHealthy : Bool)
    (config : TunnelPeer)
    (selected : PeerPath.select node.localNode record relayHealthy = .direct config) :
    config.allowed = PeerPath.allowedFor node.localNode record .relayPeer := by
  obtain ⟨method, socket, asRelay, dials⟩ :=
    select_of_relay node.localNode relayHealthy record relay
  rw [(of_dial_direct node.localNode record method socket config (dials.symm.trans selected)).2]
  rcases asRelay with rfl | rfl <;> rfl

/-- What is wanted for a relay covers a network exactly if the relay has a reach of its own, and a
prefix of it or a relayed one covers the network. -/
theorem relay_covers_iff (record : PeerRecord) (relay : record.relay = true)
    (apart : node.AllApplied fun peer => Network.Distinct peer.allowed) (network : Network) :
    (∃ config, node.Wants peers record config ∧ ∃ wide ∈ config.allowed, wide.Covers network) ↔
      ∃ own, node.OwnReach peers record own ∧
        ∃ wide, (wide ∈ own ∨ node.Relays peers wide) ∧ wide.Covers network := by
  have carried : ∀ base : TunnelPeer, Network.Distinct base.allowed → ∀ wide,
      wide ∈ (carryChildren record (node.childrenFor peers) base).allowed ↔
        wide ∈ base.allowed ∨ node.Relays peers wide := by
    intro base distinct wide
    rw [mem_allowed_carryChildren_iff record _ base relay distinct, relays_iff]
  constructor
  · rintro ⟨_, ⟨base, selected⟩ | ⟨base, method, selected, applied⟩, wide, member, covers⟩
    · rw [carried base (distinct_of_select_direct _ _ record base selected),
        allowed_of_relay node record relay _ base selected] at member
      exact ⟨_, .dialled base selected, wide, member, covers⟩
    · rw [carried base (apart record.publicKey base applied)] at member
      exact ⟨_, .kept base method selected applied, wide, member, covers⟩
  · rintro ⟨_, ⟨base, selected⟩ | ⟨base, method, selected, applied⟩, wide, member, covers⟩
    · refine ⟨_, .dialled base selected, wide, ?_, covers⟩
      rwa [carried base (distinct_of_select_direct _ _ record base selected),
        allowed_of_relay node record relay _ base selected]
    · refine ⟨_, .kept base method selected applied, wide, ?_, covers⟩
      rwa [carried base (apart record.publicKey base applied)]

/-- After a pass without failures over a listing with distinct keys, a network has a next hop
exactly if some prefix of a relay's own reach, or a relayed one beside it, covers the network. -/
theorem hasNextHop_iff (keyed : Keyed node.reconciler.applied)
    (prefixesApart : node.AllApplied fun peer => Network.Distinct peer.allowed)
    (listing : List PeerRecord) (apart : (listing.map PeerRecord.publicKey).Nodup)
    (clean : (node.fullPass driver (prepare node.localNode listing)).1.apply.isClean = true)
    (network : Network) :
    (node.fullPass driver (prepare node.localNode listing)).2.HasNextHop listing network ↔
      ∃ record ∈ prepare node.localNode listing, record.relay = true ∧
        ∃ own, node.OwnReach (prepare node.localNode listing) record own ∧
          ∃ wide, (wide ∈ own ∨ node.Relays (prepare node.localNode listing) wide) ∧
            wide.Covers network := by
  have applied := applied_iff_wants driver node keyed listing apart clean
  constructor
  · rintro ⟨record, listed, relay, config, found, covering⟩
    obtain ⟨member, wants⟩ := (applied record listed config).mp found
    exact ⟨record, member, relay, (relay_covers_iff _ node record relay prefixesApart network).mp
      ⟨config, wants, covering⟩⟩
  · rintro ⟨record, member, relay, reaches⟩
    obtain ⟨config, wants, covering⟩ :=
      (relay_covers_iff _ node record relay prefixesApart network).mpr reaches
    have listed : record ∈ listing := (mem_of_mem_prepare node.localNode listing record member).1
    exact ⟨record, listed, relay, config, (applied record listed config).mpr ⟨member, wants⟩,
      covering⟩

/-- A planned entry that names the relay is for a listed device behind it. -/
theorem relayed_of_planFor (idsApart : (peers.map PeerRecord.id).Nodup)
    (direct : node.AllApplied fun peer => peer.method ≠ .viaRelay) (id : Uuid) (entry : CacheEntry)
    (found : (node.planFor peers).entries.get? id = some entry)
    (named : entry.method = some .viaRelay) :
    entry.record ∈ peers ∧
      PeerPath.select node.localNode entry.record (node.cache.relayHealthyAmong peers) =
        .viaRelay entry.record.advertised := by
  obtain ⟨pair, member, _, rfl⟩ := (planThrough_entries node.reconciler.applied
    (node.childrenFor peers) (pathsOf node.localNode peers (node.cache.relayHealthyAmong peers))
    (by rwa [ids_pathsOf]) id entry).mp found
  obtain ⟨record, recordMember, rfl⟩ := List.mem_map.mp member
  rw [record_entryOf]
  refine ⟨recordMember, relayed_of_entryOf _ _ _ _ record (fun peer asked => ?_) named⟩
  exact ((wants_iff peers node record peer).mpr asked).method direct

end Pass

/-- In every reachable state, and for every listing with distinct keys: after a tick that applies
without failures, where an entry is shown as reached through the relay, a relay is listed that did
not fail its last probe, and a prefix of the entry has a next hop exactly if a listed relay is
dialled or keeps a peer, and a prefix that it has of its own or carries for a relayed device covers
the entry's. What the entry's device advertises is carried, and has a next hop as soon as there is
such a relay. -/
theorem relayed_entries_reached (localNode : LocalNode) (cache : DeviceCache) (applier : Applier)
    (world : World) (events : List NodeEvent) (listing : List PeerRecord)
    (apart : (listing.map PeerRecord.publicKey).Nodup) (report : TickReport)
    (after : Node World) :
    let node := run driver events (start localNode cache applier world)
    let peers := prepare node.localNode listing
    node.tick driver (.ok listing) = (.ok report, after) → report.outcome = .applied →
      report.apply.isClean = true → ∀ id entry, after.cache.snapshot.get? id = some entry →
      entry.method = some .viaRelay →
      (∃ record ∈ peers, record.relay = true ∧
        (node.cache.health.get? record.publicKey).map Health.reachable ≠ some false) ∧
      ∀ network ∈ entry.allowed,
        (after.HasNextHop listing network ↔ ∃ record ∈ peers, record.relay = true ∧
          ∃ own, node.OwnReach peers record own ∧
            ∃ wide, (wide ∈ own ∨ node.Relays peers wide) ∧ wide.Covers network) ∧
        ((∃ advertised ∈ entry.record.advertised, advertised.truncate = network) →
          (∃ record ∈ peers, record.relay = true ∧ ∃ own, node.OwnReach peers record own) →
            after.HasNextHop listing network) := by
  intro node peers ticked applies clean id entry found named
  obtain ⟨rfl, rfl⟩ := fullPass_of_applied driver node listing report after ticked applies
  have keyed : Keyed node.reconciler.applied :=
    run_keyed driver localNode cache applier world events
  have nextHop := hasNextHop_iff driver node keyed
    (run_applied_distinct driver localNode cache applier world events) listing apart clean
  obtain ⟨member, relayed⟩ := relayed_of_planFor peers node
    (prepare_ids_nodup node.localNode listing)
    (run_applied_method driver localNode cache applier world events) id entry found named
  constructor
  · have healthy := (of_select_viaRelay node.localNode _ entry.record _ relayed).2.1
    obtain ⟨record, recordMember, good⟩ := List.any_eq_true.mp healthy
    rw [Bool.and_eq_true] at good
    refine ⟨record, recordMember, good.1, fun failed => ?_⟩
    rw [failed] at good
    cases good.2
  · intro network _
    refine ⟨nextHop network, ?_⟩
    rintro ⟨advertised, among, rfl⟩ ⟨record, recordMember, relay, own, reach⟩
    refine (nextHop _).mpr ⟨record, recordMember, relay, own, reach, advertised.truncate, ?_,
      Network.covers_refl _⟩
    exact Or.inr ⟨entry.record, member, relayed, advertised, among, rfl⟩

section Examples

open Sample

/-- A relay that is dialled with the organization's network reaches a hidden device: by that network
the device's own prefix, and what the device advertises because the relay carries it. -/
theorem hidden_device_reached :
    let node : Node ScriptedTunnel := start { home with relaySupernet := [overlay] } {} {} {}
    let listing := [relay "2.2.2.2:51820", hidden 2]
    ∃ report after entry, node.tick ScriptedTunnel.driver (.ok listing) = (.ok report, after) ∧
      report.outcome = .applied ∧ report.apply.isClean = true ∧
      after.cache.snapshot.get? ⟨2⟩ = some entry ∧ entry.method = some .viaRelay ∧
      entry.allowed = [network 2, subnet 2] ∧
      ∀ network ∈ entry.allowed, after.HasNextHop listing network := by
  intro node listing
  have prepared : prepare node.localNode listing = listing :=
    prepare_of_ascending _ _ (by decide) (by decide)
  have ticked := tick_of_prepared ScriptedTunnel.driver node listing listing prepared rfl
  have clean : (node.fullPass ScriptedTunnel.driver listing).1.apply.isClean = true := by
    decide +kernel
  let entry : CacheEntry := ⟨hidden 2, some .viaRelay, none, [network 2, subnet 2]⟩
  have found : (node.fullPass ScriptedTunnel.driver listing).2.cache.snapshot.get? ⟨2⟩ =
      some entry := by decide +kernel
  obtain ⟨_, reached⟩ := relayed_entries_reached ScriptedTunnel.driver
    { home with relaySupernet := [overlay] } {} {} {} [] listing (by decide) _ _ ticked rfl clean
    ⟨2⟩ entry found rfl
  have member : relay "2.2.2.2:51820" ∈ prepare node.localNode listing := by
    rw [prepared]
    exact List.mem_cons_self
  have reach : node.OwnReach (prepare node.localNode listing) (relay "2.2.2.2:51820")
      [overlay] := by
    have dialled : PeerPath.select node.localNode (relay "2.2.2.2:51820")
        (node.cache.relayHealthyAmong (prepare node.localNode listing)) =
          .direct ⟨key 1, ⟨.v4 0x02020202, 51820, 0⟩, [overlay], none, .relayPeer⟩ := by
      rw [prepared]
      decide +kernel
    have own : PeerPath.allowedFor node.localNode (relay "2.2.2.2:51820") .relayPeer =
        [overlay] := by decide +kernel
    exact own ▸ OwnReach.dialled _ dialled
  refine ⟨_, _, entry, ticked, rfl, clean, found, rfl, rfl, fun network among => ?_⟩
  obtain ⟨nextHop, carried⟩ := reached network among
  rcases List.mem_pair.mp among with rfl | rfl
  · have covers : overlay.Covers (network 2) :=
      Network.covers_of_contains _ _ (by decide) (by decide)
    exact nextHop.mpr ⟨_, member, rfl, _, reach, overlay, Or.inl List.mem_cons_self, covers⟩
  · exact carried ⟨subnet 2, List.mem_cons_self, by decide⟩ ⟨_, member, rfl, _, reach⟩

/-- A tick applies a listing without failures, and an entry is shown as reached through the relay
though one of its prefixes has no next hop. -/
def Strands (listing : List PeerRecord) (node : Node World) : Prop :=
  (listing.map PeerRecord.publicKey).Nodup ∧ ∃ report after,
    node.tick driver (.ok listing) = (.ok report, after) ∧ report.outcome = .applied ∧
      report.apply.isClean = true ∧ ∃ id entry, after.cache.snapshot.get? id = some entry ∧
        entry.method = some .viaRelay ∧
          ∃ network ∈ entry.allowed, ¬after.HasNextHop listing network

/-- An entry is stranded if no prefix of a relay contains the address of one of its prefixes. -/
theorem strands_of_pass (node : Node World) (listing : List PeerRecord) (id : Uuid)
    (network : Network) (distinctKeys : (listing.map PeerRecord.publicKey).Nodup)
    (prepared : prepare node.localNode listing = listing)
    (passed : let pass := node.fullPass driver listing
      node.reconciler.mustRun node.localNode node.cache listing = true ∧
        pass.1.apply.isClean = true ∧
        (∃ entry ∈ pass.2.cache.snapshot.get? id,
          entry.method = some .viaRelay ∧ network ∈ entry.allowed) ∧
        ∀ record ∈ listing, record.relay = true →
          ∀ peer ∈ pass.2.reconciler.applied.get? record.publicKey,
            ∀ wide ∈ peer.allowed, wide.contains network.address = false) :
    node.Strands driver listing := by
  obtain ⟨due, clean, ⟨entry, found, named, among⟩, bare⟩ := passed
  refine ⟨distinctKeys, _, _, tick_of_prepared driver node listing listing prepared due, rfl, clean,
    id, entry, found, named, network, among, ?_⟩
  rintro ⟨record, listed, relay, peer, applied, wide, member, covers⟩
  have contained := covers.contains_address
  rw [bare record listed relay peer applied wide member] at contained
  cases contained

/-- A hidden device is stranded by a relay that converges and was never dialled, by a relay that is
dialled where the organization's network is not known or does not hold the device, and by a relay
that converges and was dialled before the organization's network was known. -/
theorem hidden_device_stranded :
    let knows (supernet : List Network) : Node ScriptedTunnel :=
      start { home with relaySupernet := supernet } {} {} {}
    (knows [overlay]).Strands ScriptedTunnel.driver [relay "", hidden 2] ∧
      (knows []).Strands ScriptedTunnel.driver [relay "2.2.2.2:51820", hidden 2] ∧
      (knows [⟨.v4 0x64400000, 31, Nat.le_succ 31⟩]).Strands ScriptedTunnel.driver
        [relay "2.2.2.2:51820", hidden 2] ∧
      (step ScriptedTunnel.driver served
        (.updateLocal fun node => { node with relaySupernet := [overlay] })).Strands
          ScriptedTunnel.driver [relay "", hidden 3] := by
  intro knows
  refine ⟨?converging, ?unknown, ?elsewhere, ?kept⟩
  case converging =>
    exact strands_of_pass _ _ _ ⟨2⟩ (network 2) (by decide)
      (prepare_of_ascending _ _ (by decide) (by decide)) (by decide +kernel)
  case unknown =>
    exact strands_of_pass _ _ _ ⟨2⟩ (network 2) (by decide)
      (prepare_of_ascending _ _ (by decide) (by decide)) (by decide +kernel)
  case elsewhere =>
    exact strands_of_pass _ _ _ ⟨2⟩ (network 2) (by decide)
      (prepare_of_ascending _ _ (by decide) (by decide)) (by decide +kernel)
  case kept =>
    rw [served_eq]
    exact strands_of_pass _ _ _ ⟨3⟩ (network 3) (by decide)
      (prepare_of_ascending _ _ (by decide) (by decide)) (by decide +kernel)

end Examples

end Node

end MeshNode
