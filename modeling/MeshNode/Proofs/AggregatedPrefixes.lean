import MeshNode.Proofs.NextHops

/-!
# What a dialled device may carry

The prefixes of a dialled device come from up to three places: a base, what the device advertises,
and, for a relay, what the devices behind the relay advertise. They are made distinct twice, once
when the path is chosen and again when the relayed prefixes are appended. The first time is lost in
the second, so that one list says it all: the sources one behind the other, truncated, the first of
equal ones kept.

The main statement is this equation for every dialled device of a full pass. The devices behind a
relay stand in it by ascending identifier, because so do the prepared ones, whatever the order of
the listing is. The list is what the tick desires for the device's key, and what is applied for it
afterwards unless the key fails.
-/

namespace MeshNode

namespace Reconciler

/-- What a dialled device that is no relay may carry is its own. -/
theorem allowed_of_ordinary (node : LocalNode) (record : PeerRecord)
    (ordinary : record.relay = false) (relayHealthy : Bool) (config : TunnelPeer)
    (selected : PeerPath.select node record relayHealthy = .direct config) :
    config.allowed = Network.distinct (record.allowed ++ record.advertised) := by
  have own : ∀ method socket, PeerPath.select node record relayHealthy =
      PeerPath.dial node record method socket → method.usesRelaySupernet = false →
      config.allowed = Network.distinct (record.allowed ++ record.advertised) := by
    intro method socket dials withoutSupernet
    rw [(of_dial_direct node record method socket config (dials.symm.trans selected)).2]
    simp [PeerPath.allowedFor, withoutSupernet]
  have nearby : (PeerPath.localMethod node record).usesRelaySupernet = false := by
    cases relay : node.relay <;> simp [PeerPath.localMethod, ordinary, relay] <;> rfl
  have undialled := selected
  unfold PeerPath.select at own undialled
  simp only [ordinary, Bool.false_or, Bool.false_eq_true, if_false] at own undialled
  split at undialled
  · rename_i neighbours
    exact own _ _ (if_pos neighbours) nearby
  · rename_i distant
    rw [if_neg distant] at own
    split at undialled
    · rename_i relaying
      exact own _ _ (if_pos relaying) rfl
    · rename_i leaf
      rw [if_neg leaf] at own
      split at undialled
      · split at undialled <;> cases undialled
      · rename_i reachable
        exact own _ _ (if_neg reachable) rfl

/-- A relay carries what it may carry anyway and then the children, the first of equal ones kept. -/
theorem allowed_carryChildren (peer : PeerRecord) (children own : List Network)
    (config : TunnelPeer) (relay : peer.relay = true)
    (allowed : config.allowed = Network.distinct own) :
    (carryChildren peer children config).allowed = Network.distinct (own ++ children) := by
  cases children with
  | nil => simp [carryChildren, allowed]
  | cons first rest =>
    simp [carryChildren, relay, allowed, Network.distinct_distinct_append]

end Reconciler

namespace Node

open Reconciler

variable {World : Type} (driver : Driver World)

/-- What the devices advertise that go through the relay in a pass over prepared peers. -/
def behindRelays (peers : List PeerRecord) (node : Node World) : List Network :=
  (peers.filter fun record =>
    (PeerPath.select node.localNode record (node.cache.relayHealthyAmong peers)).isRelayed).flatMap
      PeerRecord.advertised

/-- In every reachable state, and for every listing with distinct keys, a tick that makes a full
pass prepares the listing by strictly ascending identifier: of the records with one identifier the
first that is not the node's own. For each of these that it dials, it desires a peer with the
following prefixes, each truncated and the first of equal ones kept. A relay has the organization's
network, or its own prefixes where that is not known, then what it advertises, and then what the
devices advertise that go through the relay. Any other device has its own prefixes and what it
advertises. The peer is applied after the tick, unless its key fails. -/
theorem dialled_prefixes_aggregated (localNode : LocalNode) (cache : DeviceCache)
    (applier : Applier) (world : World) (events : List NodeEvent) (listing : List PeerRecord)
    (apart : (listing.map PeerRecord.publicKey).Nodup) (report : TickReport)
    (after : Node World) :
    let node := run driver events (start localNode cache applier world)
    let peers := prepare node.localNode listing
    let supernet := node.localNode.relaySupernet
    node.tick driver (.ok listing) = (.ok report, after) → report.outcome = .applied →
      Ascending peers ∧
      (∀ id, peers.find? (fun record => record.id = id) =
        listing.find? fun record => record.id = id && !node.localNode.isSelf record) ∧
      ∀ record ∈ peers, ∀ dialled, PeerPath.select node.localNode record
          (node.cache.relayHealthyAmong peers) = .direct dialled →
        ∃ config, (node.planFor peers).desired.get? record.publicKey = some config ∧
          (record.relay = true → config.allowed =
            (((if supernet = [] then record.allowed else supernet) ++ record.advertised ++
              node.behindRelays peers).map Network.truncate).eraseDups) ∧
          (record.relay = false → config.allowed =
            ((record.allowed ++ record.advertised).map Network.truncate).eraseDups) ∧
          (report.apply.failed record.publicKey = false →
            after.reconciler.applied.get? record.publicKey = some config) := by
  intro node peers supernet ticked applies
  obtain ⟨rfl, rfl⟩ := fullPass_of_applied driver node listing report after ticked applies
  refine ⟨prepare_ascending _ listing, find?_prepare _ listing, ?_⟩
  intro record member dialled selected
  have keyed : Keyed node.reconciler.applied :=
    run_keyed driver localNode cache applier world events
  have desired : (node.planFor peers).desired.get? record.publicKey =
      some (carryChildren record (node.childrenFor peers) dialled) :=
    (desired_iff_wants peers node keyed
      (prepare_map_nodup _ listing PeerRecord.publicKey apart) record member _).mpr
        (.dialled dialled selected)
  refine ⟨_, desired, fun relay => ?_, fun ordinary => ?_, fun granted => ?_⟩
  · have base : (if supernet = [] then record.allowed else supernet) =
        if PeeringMethod.relayPeer.usesRelaySupernet && !supernet.isEmpty then supernet
        else record.allowed := by
      cases supernet <;> rfl
    rw [← Network.distinct_eq_eraseDups, behindRelays, ← relayedChildren_pathsOf, base]
    exact allowed_carryChildren record _ _ dialled relay
      (allowed_of_relay node record relay _ dialled selected)
  · rw [carryChildren_of_ordinary record _ dialled ordinary,
      allowed_of_ordinary _ record ordinary _ dialled selected, Network.distinct_eq_eraseDups]
  · rw [(fullPass_settles driver peers node record.publicKey).2 granted, desired]

open Sample in
/-- The relay, listed between two devices behind it and an ordinary one, is to carry the network
of the organization, what it advertises and the other network behind it, once each; the ordinary
device is to carry its own. -/
theorem listed_relay_aggregates :
    let node : Node ScriptedTunnel := start { home with relaySupernet := [overlay] } {} {} {}
    let carrier := { relay "2.2.2.2:51820" with advertised := [subnet 2] }
    let ordinary := { device "4.4.4.4:51820" with
      id := ⟨4⟩, publicKey := key 4, advertised := [subnet 3, network 1] }
    let listing := [hidden 3, ordinary, carrier, hidden 2]
    ∃ report after, node.tick ScriptedTunnel.driver (.ok listing) = (.ok report, after) ∧
      report.outcome = .applied ∧ ∃ relayed own,
        (node.planFor (prepare node.localNode listing)).desired.get? (key 1) = some relayed ∧
        relayed.allowed = [overlay, subnet 2, subnet 3] ∧
        (node.planFor (prepare node.localNode listing)).desired.get? (key 4) = some own ∧
        own.allowed = [network 1, subnet 3] := by
  intro node carrier ordinary listing
  let peers := [carrier, hidden 2, hidden 3, ordinary]
  have apart : (listing.map PeerRecord.publicKey).Nodup := by decide
  have prepared : prepare node.localNode listing = peers :=
    (prepare_perm _ peers listing (by decide) (by decide)).trans
      (prepare_of_ascending _ peers (by decide) (by decide))
  have members : ∀ record ∈ peers, record ∈ prepare node.localNode listing := by
    rw [prepared]
    exact fun _ member => member
  have healthy : node.cache.relayHealthyAmong (prepare node.localNode listing) =
      node.cache.relayHealthyAmong peers := by rw [prepared]
  have behind : node.behindRelays (prepare node.localNode listing) = [subnet 2, subnet 3] := by
    rw [prepared]
    decide +kernel
  have ticked := tick_of_prepared ScriptedTunnel.driver node listing peers prepared rfl
  obtain ⟨_, _, aggregated⟩ := dialled_prefixes_aggregated ScriptedTunnel.driver
    { home with relaySupernet := [overlay] } {} {} {} [] listing apart _ _ ticked rfl
  obtain ⟨relayed, desiredRelay, ofRelay, _⟩ := aggregated carrier (members _ (by decide))
    ⟨key 1, ⟨.v4 0x02020202, 51820, 0⟩, [overlay, subnet 2], none, .relayPeer⟩
    ((congrArg _ healthy).trans (by decide +kernel))
  obtain ⟨own, desiredOwn, _, ofOrdinary, _⟩ := aggregated ordinary (members _ (by decide))
    ⟨key 4, ⟨.v4 0x04040404, 51820, 0⟩, [network 1, subnet 3], none, .reflexive⟩
    ((congrArg _ healthy).trans (by decide +kernel))
  have supernet : relayed.allowed = (([overlay] ++ [subnet 2] ++
      node.behindRelays (prepare node.localNode listing)).map Network.truncate).eraseDups :=
    ofRelay rfl
  refine ⟨_, _, ticked, rfl, relayed, own, desiredRelay, ?_, desiredOwn, ?_⟩
  · rw [supernet, behind]
    decide +kernel
  · exact (ofOrdinary rfl).trans (by decide +kernel)

end Node

end MeshNode
