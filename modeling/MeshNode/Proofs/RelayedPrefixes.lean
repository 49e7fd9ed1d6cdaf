import MeshNode.Proofs.AppliedPeers

/-!
# Where a relay's prefixes come from

A relay that is dialled gets its prefixes anew in every pass: those of its record, with the
organization's network in place of the record's own where that is known, and those that the
devices behind the relay advertise. A relay that converges is different. It keeps the peer
that is applied for its key, and that peer carries what was relayed when it was configured
last. Prefixes are added to it and none is ever taken away, so the network of a device that
has left stays with the relay as long as the relay converges.

The main statement accounts for every prefix of an applied relay. It stands in the relay's
record or belongs to a device that goes through the relay in this very tick, or else the relay
converges and the prefix was applied before; and then some earlier tick of the run accounts for
it, by a record of the relay that it listed or by a device that it relayed.
-/

namespace MeshNode

/-- A record accounts for a network on its own: the network is the organization's, or the device
has it or advertises it. -/
def PeerRecord.Offers (record : PeerRecord) (node : LocalNode) (network : Network) : Prop :=
  ∃ offered ∈ node.relaySupernet ++ record.allowed ++ record.advertised, offered.truncate = network

instance (record : PeerRecord) (node : LocalNode) (network : Network) :
    Decidable (record.Offers node network) :=
  inferInstanceAs (Decidable (∃ offered ∈ _, _))

namespace Reconciler

/-- What a dialled device may use is what its record accounts for. -/
theorem offers_of_select_direct (node : LocalNode) (relayHealthy : Bool) (record : PeerRecord)
    (config : TunnelPeer)
    (selected : PeerPath.select node record relayHealthy = .direct config) (network : Network)
    (member : network ∈ config.allowed) : record.Offers node network := by
  obtain ⟨method, socket, dialled⟩ := dial_of_select_direct node relayHealthy record config selected
  rw [(of_dial_direct node record method socket config dialled).2, PeerPath.allowedFor,
    Network.mem_distinct_iff] at member
  obtain ⟨offered, among, truncated⟩ := member
  refine ⟨offered, ?_, truncated⟩
  simp only [List.mem_append] at among ⊢
  split at among
  · exact among.imp_left Or.inl
  · exact among.imp_left Or.inr

end Reconciler

namespace Node

open Reconciler

variable {World : Type} (driver : Driver World)

/-- A pass over prepared peers relays a network: a device that goes through the relay advertises
it. -/
def Relays (peers : List PeerRecord) (node : Node World) (network : Network) : Prop :=
  ∃ record ∈ peers,
    PeerPath.select node.localNode record (node.cache.relayHealthyAmong peers) =
      .viaRelay record.advertised ∧
    ∃ advertised ∈ record.advertised, advertised.truncate = network

instance (peers : List PeerRecord) (node : Node World) (network : Network) :
    Decidable (node.Relays peers network) :=
  inferInstanceAs (Decidable (∃ record ∈ peers, _ ∧ ∃ advertised ∈ _, _))

/-- A pass over prepared peers accounts for a network at a key: one of its records has the key and
the network, or it relays the network. -/
def Accounts (peers : List PeerRecord) (node : Node World) (key : PublicKey) (network : Network) :
    Prop :=
  (∃ record ∈ peers, record.publicKey = key ∧ record.Offers node.localNode network) ∨
    node.Relays peers network

section Pass

variable (peers : List PeerRecord) (node : Node World)

theorem relays_iff (network : Network) :
    node.Relays peers network ↔ ∃ child ∈ node.childrenFor peers, child.truncate = network := by
  simp only [mem_childrenFor_iff, Relays]
  constructor
  · rintro ⟨record, member, relayed, advertised, among, rfl⟩
    exact ⟨advertised, ⟨record, member, relayed, among⟩, rfl⟩
  · rintro ⟨child, ⟨record, member, relayed, among⟩, rfl⟩
    exact ⟨record, member, relayed, child, among, rfl⟩

/-- A prefix that a pass wants for a record stands in the record or is relayed, or the record keeps
it. -/
theorem Wants.accounts {peers : List PeerRecord} {node : Node World} {record : PeerRecord}
    {config : TunnelPeer} (wants : node.Wants peers record config)
    (apart : node.AllApplied fun peer => Network.Distinct peer.allowed) (network : Network)
    (member : network ∈ config.allowed) :
    record.Offers node.localNode network ∨ node.Relays peers network ∨
      ∃ method kept, PeerPath.select node.localNode record (node.cache.relayHealthyAmong peers) =
          .converging method ∧
        node.reconciler.applied.get? record.publicKey = some kept ∧ network ∈ kept.allowed := by
  cases wants with
  | dialled base selected =>
    rcases mem_allowed_carryChildren record _ base
      (distinct_of_select_direct _ _ record base selected) network member with own | carried
    · exact Or.inl (offers_of_select_direct _ _ record base selected network own)
    · exact Or.inr (Or.inl ((relays_iff peers node network).mpr carried))
  | kept base method selected applied =>
    rcases mem_allowed_carryChildren record _ base (apart record.publicKey base applied) network
      member with own | carried
    · exact Or.inr (Or.inr ⟨method, base, selected, applied, own⟩)
    · exact Or.inr (Or.inl ((relays_iff peers node network).mpr carried))

end Pass

/-- Some tick of a run accounts for a network at a key. -/
def AccountedIn (events : List NodeEvent) (origin : Node World) (key : PublicKey)
    (network : Network) : Prop :=
  ∃ earlier listing later, events = earlier ++ .tick (.ok listing) :: later ∧
    let past := run driver earlier origin
    past.Accounts (prepare past.localNode listing) key network

section Reachable

variable (localNode : LocalNode) (cache : DeviceCache) (applier : Applier) (world : World)
  (events : List NodeEvent)

/-- Some tick of the run accounts for each prefix that is applied. -/
theorem run_applied_accounted :
    let origin := start localNode cache applier world
    (run driver events origin).AllApplied fun peer =>
      ∀ network ∈ peer.allowed, AccountedIn driver events origin peer.publicKey network := by
  intro origin
  refine run_allApplied driver events origin (fun _ _ found => nomatch found)
    (fun _ _ found => nomatch found) ?_
  intro earlier listing later split past held record recordMember config wants network member
  have keyed : Keyed past.reconciler.applied :=
    run_keyed driver localNode cache applier world earlier
  have own : config.publicKey = record.publicKey := wants.publicKey keyed
  rw [own]
  rcases wants.accounts (run_applied_distinct driver localNode cache applier world earlier)
    network member with offers | relayed | ⟨method, kept, _, applied, among⟩
  · exact ⟨earlier, listing, later, split, Or.inl ⟨record, recordMember, rfl, offers⟩⟩
  · exact ⟨earlier, listing, later, split, Or.inr relayed⟩
  · rw [← keyed record.publicKey kept applied]
    exact held record.publicKey kept applied network among

end Reachable

/-- In every reachable state, and for every listing with distinct keys: after a tick that applies
without failures each prefix of a listed device, relay or not, is accounted for by its record, or
it is relayed in this tick, or the device converges and keeps it; then it was applied before, and
some tick of the run accounts for it. A device that converges keeps every prefix that it had. -/
theorem applied_prefixes_accounted (localNode : LocalNode) (cache : DeviceCache)
    (applier : Applier) (world : World) (events : List NodeEvent) (listing : List PeerRecord)
    (apart : (listing.map PeerRecord.publicKey).Nodup) (report : TickReport)
    (after : Node World) :
    let origin := start localNode cache applier world
    let node := run driver events origin
    let peers := prepare node.localNode listing
    let path (record : PeerRecord) :=
      PeerPath.select node.localNode record (node.cache.relayHealthyAmong peers)
    node.tick driver (.ok listing) = (.ok report, after) → report.outcome = .applied →
      report.apply.isClean = true → ∀ record ∈ listing, ∀ config,
      after.reconciler.applied.get? record.publicKey = some config →
      (∀ network ∈ config.allowed,
        record.Offers node.localNode network ∨ node.Relays peers network ∨
          ∃ method kept, path record = .converging method ∧
            node.reconciler.applied.get? record.publicKey = some kept ∧ network ∈ kept.allowed ∧
            AccountedIn driver events origin record.publicKey network) ∧
      ∀ method kept, path record = .converging method →
        node.reconciler.applied.get? record.publicKey = some kept →
        kept.allowed ⊆ config.allowed := by
  intro origin node peers path ticked applies clean record listed config found
  obtain ⟨rfl, rfl⟩ := fullPass_of_applied driver node listing report after ticked applies
  have keyed : Keyed node.reconciler.applied :=
    run_keyed driver localNode cache applier world events
  have prefixesApart : node.AllApplied fun peer => Network.Distinct peer.allowed :=
    run_applied_distinct driver localNode cache applier world events
  obtain ⟨_, wants⟩ :=
    (applied_iff_wants driver node keyed listing apart clean record listed config).mp found
  constructor
  · intro network member
    rcases wants.accounts prefixesApart network member with
      offers | relayed | ⟨method, kept, converges, applied, among⟩
    · exact Or.inl offers
    · exact Or.inr (Or.inl relayed)
    · have accounted : AccountedIn driver events origin kept.publicKey network :=
        run_applied_accounted driver localNode cache applier world events record.publicKey kept
          applied network among
      rw [keyed record.publicKey kept applied] at accounted
      exact Or.inr (Or.inr ⟨method, kept, converges, applied, among, accounted⟩)
  · intro method kept converges applied
    cases wants with
    | dialled base selected => cases converges.symm.trans selected
    | kept base _ selected appliedBase =>
      obtain rfl : kept = base := Option.some.inj (applied.symm.trans appliedBase)
      exact allowed_subset_carryChildren record _ kept
        (prefixesApart record.publicKey kept applied)

section Examples

open Sample

/-- A relay carries the network of a hidden device. In the next listing another hidden device has
taken the place of that one, and the relay is dialled again: it has its own prefix and the network
of the second device. -/
theorem dialled_relay_drops_departed :
    let listing := [relay "4.4.4.4:51820", hidden 3]
    (listing.map PeerRecord.publicKey).Nodup ∧
      (served.reconciler.applied.get? (key 1)).map TunnelPeer.allowed =
        some [network 1, subnet 2] ∧
      ∃ report after config, served.tick ScriptedTunnel.driver (.ok listing) = (.ok report, after) ∧
        report.outcome = .applied ∧ report.apply.isClean = true ∧
        after.reconciler.applied.get? (key 1) = some config ∧
        config.allowed = [network 1, subnet 3] ∧ ∀ network ∈ config.allowed,
          (relay "4.4.4.4:51820").Offers served.localNode network ∨
            served.Relays listing network := by
  intro listing
  have distinctKeys : (listing.map PeerRecord.publicKey).Nodup := by decide
  have prepared : prepare served.localNode listing = listing :=
    prepare_served listing (by decide) (by decide)
  have due : served.reconciler.mustRun served.localNode served.cache listing = true := by
    rw [served_eq]
    decide +kernel
  have ticked := tick_of_prepared ScriptedTunnel.driver served listing listing prepared due
  have clean : (served.fullPass ScriptedTunnel.driver listing).1.apply.isClean = true := by
    rw [served_eq]
    decide +kernel
  let config : TunnelPeer :=
    ⟨key 1, ⟨.v4 0x04040404, 51820, 0⟩, [network 1, subnet 3], none, .relayPeer⟩
  have found : (served.fullPass ScriptedTunnel.driver listing).2.reconciler.applied.get? (key 1) =
      some config := by
    rw [served_eq]
    decide +kernel
  obtain ⟨accounted, _⟩ := applied_prefixes_accounted ScriptedTunnel.driver home {} {} {} _
    listing distinctKeys _ _ ticked rfl clean _ List.mem_cons_self config found
  refine ⟨distinctKeys, by rw [served_eq]; decide +kernel, _, _, config, ticked, rfl, clean, found,
    rfl, fun network member => ?_⟩
  rcases accounted network member with
    offers | (relayed : served.Relays (prepare served.localNode listing) network) |
    ⟨method, _, (converges : PeerPath.select served.localNode _
      (served.cache.relayHealthyAmong (prepare served.localNode listing)) = _), _⟩
  · exact Or.inl offers
  · rw [prepared] at relayed
    exact Or.inr relayed
  · have dialled : (PeerPath.select served.localNode (relay "4.4.4.4:51820")
        (served.cache.relayHealthyAmong (prepare served.localNode listing))).kind = "direct" := by
      rw [prepared, served_eq]
      decide +kernel
    rw [converges] at dialled
    simp [PeerPath.kind] at dialled

/-- As before, but in the second listing the relay's endpoint is unfinished. The relay is configured
with the networks of both hidden devices, although the first is not listed any more. -/
theorem departed_network_carried :
    let listing := [relay "", hidden 3]
    let config : TunnelPeer :=
      ⟨key 1, ⟨.v4 0x02020202, 51820, 0⟩, [network 1, subnet 2, subnet 3], none, .relayPeer⟩
    (listing.map PeerRecord.publicKey).Nodup ∧ prepare served.localNode listing = listing ∧
      (∃ report after, served.tick ScriptedTunnel.driver (.ok listing) = (.ok report, after) ∧
        report.outcome = .applied ∧ report.apply.isClean = true ∧
        after.reconciler.applied.get? (key 1) = some config) ∧
      ⟨.configure config, true⟩ ∈ served.tickExchanges ScriptedTunnel.driver (.ok listing) ∧
      ¬(relay "").Offers served.localNode (subnet 2) ∧ ¬served.Relays listing (subnet 2) := by
  intro listing config
  have prepared : prepare served.localNode listing = listing :=
    prepare_served listing (by decide) (by decide)
  have due : served.reconciler.mustRun served.localNode served.cache listing = true := by
    rw [served_eq]
    decide +kernel
  have ticked := tick_of_prepared ScriptedTunnel.driver served listing listing prepared due
  refine ⟨by decide, prepared, ⟨_, _, ticked, rfl, ?clean, ?applied⟩, ?configured, ?record,
    ?relayed⟩
  case configured =>
    rw [tickExchanges_eq, prepared, if_pos due, served_eq]
    decide +kernel
  all_goals
    rw [served_eq]
    decide +kernel

end Examples

end Node

end MeshNode
