import Mathlib.Data.List.Infix
import MeshNode.Proofs.AppliedPeers
import MeshNode.Proofs.MinimalChange

/-!
# A relay-only node

A relay-only node that is no relay itself dials relays and nobody else. An ordinary device
goes through the relay or nowhere, on the same network as on another one, and so a pass
wants a peer for a listed relay only. That alone is not enough for a whole run: a relay that
converges keeps what is applied for its key, whatever the device was when it was dialled, and
what is applied outlives a removal that fails. But all that is applied was wanted by some
pass of the run, and so every applied peer is dialled as a relay.

The node has to be relay-only throughout. What it dialled before stays applied for a relay
that converges.
-/

namespace MeshNode

/-- A node that uses relays only and is none itself. -/
def LocalNode.Secluded (node : LocalNode) : Prop := node.relayOnly = true ∧ node.relay = false

instance (node : LocalNode) : Decidable node.Secluded := inferInstanceAs (Decidable (_ ∧ _))

/-- The methods by which a relay is dialled. -/
def PeeringMethod.DialsRelay (method : PeeringMethod) : Prop :=
  method = .relayPeer ∨ method = .relayPeerDirectLocal

/-- A peer is dialled as a relay, and a listing flags its device as one. -/
structure TunnelPeer.IsListedRelay (peer : TunnelPeer) (listing : List PeerRecord) : Prop where
  listed : ∃ record ∈ listing, record.relay = true ∧ record.publicKey = peer.publicKey
  dials : peer.method.DialsRelay

namespace Reconciler

/-- A secluded node reaches an ordinary device through the relay or not at all. -/
theorem select_of_secluded (node : LocalNode) (secluded : node.Secluded) (relayHealthy : Bool)
    (record : PeerRecord) (ordinary : record.relay = false) :
    PeerPath.select node record relayHealthy =
      if relayHealthy then .viaRelay record.advertised else .unreachable := by
  simp [PeerPath.select, secluded.1, secluded.2, ordinary]

end Reconciler

namespace Node

open Reconciler

variable {World : Type} (driver : Driver World)

/-- Every applied peer is dialled as a relay. -/
def DialsRelaysOnly (node : Node World) : Prop := node.AllApplied fun peer => peer.method.DialsRelay

/-- A secluded node wants a peer for relays only, dialled as a relay as long as the applied peers
are. -/
theorem Wants.of_secluded {peers : List PeerRecord} {node : Node World} {record : PeerRecord}
    {config : TunnelPeer} (wants : node.Wants peers record config)
    (secluded : node.localNode.Secluded) (held : node.DialsRelaysOnly) :
    record.relay = true ∧ config.method.DialsRelay := by
  have decided := select_of_secluded node.localNode secluded
    (node.cache.relayHealthyAmong peers) record
  have relay : record.relay = true := by
    by_contra ordinary
    rw [Bool.not_eq_true] at ordinary
    cases wants with
    | dialled _ selected | kept _ _ selected _ =>
      rw [decided ordinary] at selected
      split at selected <;> cases selected
  refine ⟨relay, ?_⟩
  cases wants with
  | dialled base selected =>
    obtain ⟨method, socket, asRelay, dials⟩ := select_of_relay node.localNode
      (node.cache.relayHealthyAmong peers) record relay
    rw [method_carryChildren]
    rw [dials] at selected
    cases socket with
    | none => cases selected
    | some endpoint => exact PeerPath.direct.inj selected ▸ asRelay
  | kept base method selected applied =>
    rw [method_carryChildren]
    exact held record.publicKey base applied

/-- A node that is secluded throughout a run dials relays only. -/
theorem run_dialsRelaysOnly (events : List NodeEvent) (node : Node World)
    (keyed : Keyed node.reconciler.applied) (initial : node.DialsRelaysOnly)
    (secluded : ∀ earlier later, events = earlier ++ later →
      (run driver earlier node).localNode.Secluded) :
    (run driver events node).DialsRelaysOnly := by
  refine run_allApplied driver events node keyed initial ?_
  intro earlier listing later split past held record _ config wants
  exact (wants.of_secluded (secluded earlier _ split) held).2

/-- Only a full pass configures peers, and only those that are desired. -/
theorem desired_of_configured (fetched : Except ListingError (List PeerRecord))
    (node : Node World) (peer : TunnelPeer) (exchange : Exchange)
    (member : exchange ∈ node.tickExchanges driver fetched)
    (asks : exchange.request = .configure peer) :
    ∃ listing, fetched = .ok listing ∧
      (node.planFor (prepare node.localNode listing)).desired.get? peer.publicKey = some peer := by
  match fetched with
  | .error (.transient reason) => cases member
  | .error (.unauthorized reason) => cases member
  | .ok listing =>
    refine ⟨listing, rfl, ?_⟩
    rw [tickExchanges_eq] at member
    split at member
    · have requested : .configure peer ∈
          peerRequests (node.passExchanges driver (prepare node.localNode listing)) :=
        List.mem_filter.mpr ⟨List.mem_map.mpr ⟨exchange, member, asks⟩, rfl⟩
      rw [peerRequests_passExchanges] at requested
      obtain ⟨change, changeMember, same⟩ := List.mem_map.mp requested
      obtain rfl : change = .configure peer := by
        cases change with
        | configure other => exact congrArg _ (Request.configure.inj same)
        | remove key => cases same
      exact (node.reconciler.wanted_of_mem_difference _ (plan_keyed _ _) _ changeMember).symm
    · cases member

/-- A run in which the local node is relay-only and no relay throughout, whatever else happens in
it and whatever fails: every peer that the next tick configures is for a record that its listing
flags as a relay, and is dialled as a relay; after a tick that applies without failures every
applied peer is such a peer; and at any time every applied peer is dialled as a relay. -/
theorem secluded_dials_relays (localNode : LocalNode) (cache : DeviceCache) (applier : Applier)
    (world : World) (events : List NodeEvent)
    (secluded : ∀ earlier later, events = earlier ++ later →
      (run driver earlier (start localNode cache applier world)).localNode.Secluded) :
    let node := run driver events (start localNode cache applier world)
    (∀ fetched, ∀ exchange ∈ node.tickExchanges driver fetched, ∀ peer,
      exchange.request = .configure peer →
        ∃ listing, fetched = .ok listing ∧ peer.IsListedRelay listing) ∧
      (∀ listing report after, node.tick driver (.ok listing) = (.ok report, after) →
        report.outcome = .applied → report.apply.isClean = true →
        after.AllApplied fun peer => peer.IsListedRelay listing) ∧
      node.DialsRelaysOnly := by
  intro node
  have keyed : Keyed node.reconciler.applied :=
    run_keyed driver localNode cache applier world events
  have held : node.DialsRelaysOnly :=
    run_dialsRelaysOnly driver events _ (fun _ _ found => nomatch found)
      (fun _ _ found => nomatch found) secluded
  have now : node.localNode.Secluded := secluded events [] (List.append_nil events).symm
  have desires : ∀ listing key peer,
      (node.planFor (prepare node.localNode listing)).desired.get? key = some peer →
        peer.IsListedRelay listing := by
    intro listing key peer found
    obtain ⟨record, member, own, wants⟩ := wants_of_desired _ node keyed key peer found
    obtain ⟨relay, asRelay⟩ := wants.of_secluded now held
    have standing : peer.publicKey = key := plan_keyed _ _ key peer found
    have listed : record ∈ listing := (mem_of_mem_prepare node.localNode listing record member).1
    exact ⟨⟨record, listed, relay, own.trans standing.symm⟩, asRelay⟩
  refine ⟨?_, ?_, held⟩
  · intro fetched exchange member peer asks
    obtain ⟨listing, got, desired⟩ :=
      desired_of_configured driver fetched node peer exchange member asks
    exact ⟨listing, got, desires listing peer.publicKey peer desired⟩
  · intro listing report after ticked applied clean key peer found
    obtain ⟨rfl, rfl⟩ := fullPass_of_applied driver node listing report after ticked applied
    rw [(fullPass_clean driver _ node clean).2] at found
    exact desires listing key peer found

/-- A relay-only node dials a relay, which then is listed as an ordinary device, and whose removal
fails. When the device is a relay again, with an unfinished endpoint, its peer is configured once
more, and it is dialled as a relay. -/
theorem demoted_relay_kept :
    let events : List NodeEvent :=
      [.tick (.ok [Sample.relay "2.2.2.2:51820"]), .tick (.ok [Sample.device "2.2.2.2:51820"])]
    let origin := start { Sample.home with relayOnly := true } {} {}
      ({ script := [false, false, false, true] } : ScriptedTunnel)
    let node := run ScriptedTunnel.driver events origin
    (∀ earlier later, events = earlier ++ later →
        (run ScriptedTunnel.driver earlier origin).localNode.Secluded) ∧
      ⟨.remove (Sample.key 1), false⟩ ∈
        (run ScriptedTunnel.driver events.dropLast origin).tickExchanges ScriptedTunnel.driver
          (.ok [Sample.device "2.2.2.2:51820"]) ∧
      ∃ exchange ∈ node.tickExchanges ScriptedTunnel.driver (.ok [Sample.relay ""]),
        ∃ peer, exchange.request = .configure peer ∧ peer.publicKey = Sample.key 1 ∧
          peer.method.DialsRelay := by
  intro events origin node
  have throughout : ∀ earlier ∈ events.inits,
      (run ScriptedTunnel.driver earlier origin).localNode.Secluded := by decide +kernel
  have secluded : ∀ earlier later, events = earlier ++ later →
      (run ScriptedTunnel.driver earlier origin).localNode.Secluded := fun earlier later split =>
    throughout earlier ((List.mem_inits _ _).mpr ⟨later, split.symm⟩)
  obtain ⟨dials, _, _⟩ := secluded_dials_relays ScriptedTunnel.driver
    { Sample.home with relayOnly := true } {} {} { script := [false, false, false, true] } events
    secluded
  obtain ⟨exchange, member, peer, asks, own⟩ :
      ∃ exchange ∈ node.tickExchanges ScriptedTunnel.driver (.ok [Sample.relay ""]),
        ∃ peer, exchange.request = .configure peer ∧ peer.publicKey = Sample.key 1 := by
    let kept : TunnelPeer :=
      ⟨Sample.key 1, ⟨.v4 0x02020202, 51820, 0⟩, [Sample.network 1], none, .relayPeer⟩
    exact ⟨⟨.configure kept, true⟩, by decide +kernel, kept, rfl, rfl⟩
  obtain ⟨_, _, isRelay⟩ := dials _ exchange member peer asks
  exact ⟨secluded, by decide +kernel, exchange, member, peer, asks, own, isRelay.dials⟩

end Node

end MeshNode
