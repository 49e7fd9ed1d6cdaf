import MeshNode.Proofs.Caches
import MeshNode.Proofs.Listings
import MeshNode.Proofs.Requests
import MeshNode.Proofs.TunnelLaws

/-!
# Retry and convergence

What failed is tried again by the next tick that gets a listing, once for each key.
A pass without failures leaves no key dirty and exactly the desired peers applied,
and the tick after it, with the same listing in any order, has nothing to do.

The last law rests on the cache. The verdict on the relays is taken before the
snapshot is replaced, and replacing it drops health; but only that of keys outside
the new snapshot, which holds every prepared record, so the next tick comes to the
same verdict.
-/

namespace MeshNode

/-- Where nothing failed, no key did. -/
theorem ApplyReport.failed_of_isClean (report : ApplyReport) (clean : report.isClean = true)
    (key : PublicKey) : report.failed key = false := by
  rw [isClean, List.isEmpty_iff] at clean
  simp [failed, clean]

namespace Reconciler

/-- A tick has nothing to do exactly if none of five facts has moved. -/
theorem mustRun_eq_false_iff (reconciler : Reconciler) (node : LocalNode) (cache : DeviceCache)
    (peers : List PeerRecord) :
    reconciler.mustRun node cache peers = false ↔
      reconciler.phase = .steady ∧ (listingDiff cache.snapshot peers).differs = false ∧
        reconciler.dirty = [] ∧
        reconciler.lastRelayHealthy = some (cache.relayHealthyAmong peers) ∧
        reconciler.lastGeneration = some node.generation := by
  simp [mustRun, and_assoc]

theorem record_entryOf (peer : PeerRecord) (path : PeerPath) (config : Option TunnelPeer) :
    (entryOf peer path config).record = peer := by
  unfold entryOf
  split
  · rfl
  · split <;> rfl

end Reconciler

namespace Node

open Reconciler

variable {World : Type} (driver : Driver World)

section Planned

variable (peers : List PeerRecord) (node : Node World)

/-- A plan for records with distinct identifiers holds each at its identifier, and nothing
besides. -/
theorem plan_holds (applied : Table PublicKey TunnelPeer) (localNode : LocalNode)
    (relayHealthy : Bool) (apart : (peers.map PeerRecord.id).Nodup) :
    let entries := (plan applied (pathsOf localNode peers relayHealthy)).entries
    (∀ peer ∈ peers, ∃ entry, entries.get? peer.id = some entry ∧ entry.record = peer) ∧
      ∀ id entry, entries.get? id = some entry → ∃ peer ∈ peers, peer.id = id := by
  have holds := planThrough_entries applied
    (relayedChildren (pathsOf localNode peers relayHealthy))
    (pathsOf localNode peers relayHealthy) (by rwa [ids_pathsOf])
  constructor
  · intro peer member
    refine ⟨_, (holds peer.id _).mpr ⟨_, List.mem_map.mpr ⟨peer, member, rfl⟩, rfl, rfl⟩, ?_⟩
    exact record_entryOf _ _ _
  · intro id entry found
    obtain ⟨pair, member, own, _⟩ := (holds id entry).mp found
    obtain ⟨peer, peerMember, rfl⟩ := List.mem_map.mp member
    exact ⟨peer, peerMember, own⟩

/-- A prepared listing does not differ from what is planned for it. -/
theorem planFor_differs (ascending : Ascending peers) :
    (listingDiff (node.planFor peers).entries peers).differs = false :=
  (differs_eq_false_iff _ peers ascending).mpr
    (plan_holds peers node.reconciler.applied node.localNode _ (ids_nodup_of_ascending ascending))

/-- A full pass that reports no failure leaves no key dirty and applies what is desired. -/
theorem fullPass_clean (clean : (node.fullPass driver peers).1.apply.isClean = true) :
    (node.fullPass driver peers).2.reconciler.dirty = [] ∧
      ∀ key, (node.fullPass driver peers).2.reconciler.applied.get? key =
        (node.planFor peers).desired.get? key := by
  have success := ApplyReport.failed_of_isClean _ clean
  constructor
  · rw [List.eq_nil_iff_forall_not_mem]
    intro key dirty
    have failed := (fullPass_settles driver peers node key).1.mp dirty
    rw [success key] at failed
    cases failed
  · exact fun key => (fullPass_settles driver peers node key).2 (success key)

/-- After a full pass without failures the same prepared listing leaves nothing to do. -/
theorem mustRun_after_clean (ascending : Ascending peers)
    (clean : (node.fullPass driver peers).1.apply.isClean = true) :
    let after := (node.fullPass driver peers).2
    after.reconciler.mustRun after.localNode after.cache peers = false := by
  have same : (listingDiff (node.planFor peers).entries peers).differs = false :=
    planFor_differs peers node ascending
  have held : ∀ peer ∈ peers,
      DeviceCache.holdsKey (node.planFor peers).entries peer.publicKey = true := by
    intro peer member
    obtain ⟨entry, found, own⟩ := ((differs_eq_false_iff _ _ ascending).mp same).1 peer member
    exact (DeviceCache.holdsKey_iff _ _).mpr ⟨peer.id, entry, found, by rw [own]⟩
  have verdict := node.cache.relayHealthyAmong_replace (node.planFor peers).entries peers held
  refine (mustRun_eq_false_iff _ _ _ _).mpr ⟨rfl, same, ?_, ?_, rfl⟩
  · exact (fullPass_clean driver peers node clean).1
  · exact congrArg some verdict.symm

end Planned

section Ticks

variable (node : Node World)

/-- Only a tick that gets a listing touches what is dirty. -/
theorem run_dirty_of_quiet (events : List NodeEvent)
    (quiet : ∀ event ∈ events, event.fetches = false) :
    (run driver events node).reconciler.dirty = node.reconciler.dirty := by
  induction events generalizing node with
  | nil => rfl
  | cons event rest inductionHypothesis =>
    have later := inductionHypothesis (step driver node event)
      fun other member => quiet other (List.mem_cons_of_mem _ member)
    have first : (step driver node event).reconciler.dirty = node.reconciler.dirty := by
      have silent := quiet event List.mem_cons_self
      match event with
      | .tick (.error (.transient reason)) => rfl
      | .tick (.error (.unauthorized reason)) => rfl
      | .tick (.ok listing) => simp [NodeEvent.fetches] at silent
      | .awaitSession => rfl
      | .resume => rfl
      | .recordHealth results => rfl
      | .updateLocal change => rfl
    exact later.trans first

/-- A tick with a listing requests one change of each dirty key: its configuration where the tick
desires it, else its removal. -/
theorem requests_of_dirty (listing : List PeerRecord) (key : PublicKey)
    (dirty : key ∈ node.reconciler.dirty) :
    ((node.tickExchanges driver (.ok listing)).map Exchange.request).filter
        (Request.changes key) =
      [match (node.planFor (prepare node.localNode listing)).desired.get? key with
        | some peer => .configure peer
        | none => .remove key] := by
  have must : node.reconciler.mustRun node.localNode node.cache
      (prepare node.localNode listing) = true := by
    rw [← Bool.not_eq_false, mustRun_eq_false_iff]
    rintro ⟨_, _, noneDirty, _⟩
    rw [noneDirty] at dirty
    cases dirty
  have keyed := plan_keyed node.reconciler.applied (pathsOf node.localNode
    (prepare node.localNode listing)
    (node.cache.relayHealthyAmong (prepare node.localNode listing)))
  have changed := node.reconciler.mem_difference_of_dirty
    (node.planFor (prepare node.localNode listing)).desired keyed key dirty
  have once := Change.requests_of_mem (node.changesFor (prepare node.localNode listing))
    (changesFor_nodup _ node) _ changed
  rw [tickExchanges_eq, if_pos must, ← filter_changes_peerRequests,
    peerRequests_passExchanges]
  cases found : (node.planFor (prepare node.localNode listing)).desired.get? key with
  | none =>
    rw [found] at once
    exact once
  | some peer =>
    have own : peer.publicKey = key := keyed key peer found
    rw [found] at once
    simpa [Change.key, Change.request, own] using once

/-- A tick that applies made a full pass. -/
theorem fullPass_of_applied (listing : List PeerRecord) (report : TickReport)
    (after : Node World) (ticked : node.tick driver (.ok listing) = (.ok report, after))
    (applied : report.outcome = .applied) :
    report = (node.fullPass driver (prepare node.localNode listing)).1 ∧
      after = (node.fullPass driver (prepare node.localNode listing)).2 := by
  rcases tick_cases driver (.ok listing) node with
    ⟨_, impossible, _⟩ | ⟨_, impossible, _⟩ | ⟨_, _, _, idle⟩ | ⟨other, same, _, passed⟩
  · cases impossible
  · cases impossible
  · obtain ⟨answer, rfl⟩ := Prod.mk.inj (idle.symm.trans ticked)
    obtain rfl := Except.ok.inj answer
    cases applied
  · obtain rfl := Except.ok.inj same
    obtain ⟨answer, rfl⟩ := Prod.mk.inj (passed.symm.trans ticked)
    exact ⟨(Except.ok.inj answer).symm, rfl⟩

/-- A tick that has nothing to do is unchanged and requests nothing. -/
theorem tick_of_idle (listing : List PeerRecord)
    (idle : node.reconciler.mustRun node.localNode node.cache
      (prepare node.localNode listing) = false) :
    node.tick driver (.ok listing) = (.ok { outcome := .unchanged }, node) ∧
      node.tickExchanges driver (.ok listing) = [] := by
  constructor
  · exact if_neg (Bool.eq_false_iff.mp idle)
  · rw [tickExchanges_eq]
    exact if_neg (Bool.eq_false_iff.mp idle)

end Ticks

/-- In every reachable state: the next tick that gets a listing, whatever other events come
first, requests exactly one change of each dirty key; a tick that applies without failures leaves
no key dirty and exactly the desired peers applied; and a tick right after it, whose listing has
the same records with distinct identifiers in any order, is unchanged and requests nothing. -/
theorem retries_and_converges (localNode : LocalNode) (cache : DeviceCache) (applier : Applier)
    (world : World) (events : List NodeEvent) :
    let node := run driver events (start localNode cache applier world)
    (∀ (between : List NodeEvent) (listing : List PeerRecord) (key : PublicKey),
      (∀ event ∈ between, event.fetches = false) → key ∈ node.reconciler.dirty →
      let next := run driver between node
      ((next.tickExchanges driver (.ok listing)).map Exchange.request).filter
          (Request.changes key) =
        [match (next.planFor (prepare next.localNode listing)).desired.get? key with
          | some peer => .configure peer
          | none => .remove key]) ∧
    ∀ (listing : List PeerRecord) (report : TickReport) (after : Node World),
      node.tick driver (.ok listing) = (.ok report, after) → report.outcome = .applied →
      report.apply.isClean = true →
      (after.reconciler.dirty = [] ∧
        ∀ key, after.reconciler.applied.get? key =
          (node.planFor (prepare node.localNode listing)).desired.get? key) ∧
      ∀ reordered : List PeerRecord, (listing.map PeerRecord.id).Nodup →
        reordered.Perm listing →
        after.tick driver (.ok reordered) = (.ok { outcome := .unchanged }, after) ∧
          after.tickExchanges driver (.ok reordered) = [] := by
  intro node
  constructor
  · intro between listing key quiet dirty
    refine requests_of_dirty driver _ listing key ?_
    rwa [run_dirty_of_quiet driver node between quiet]
  · intro listing report after ticked applied clean
    obtain ⟨rfl, rfl⟩ := fullPass_of_applied driver node listing report after ticked applied
    refine ⟨fullPass_clean driver _ node clean, ?_⟩
    intro reordered apart same
    have idle := mustRun_after_clean driver (prepare node.localNode listing) node
      (prepare_ascending node.localNode listing) clean
    have again : prepare node.localNode reordered = prepare node.localNode listing :=
      prepare_perm node.localNode listing reordered apart same
    refine tick_of_idle driver _ reordered ?_
    rw [← again] at idle ⊢
    exact idle

/-- The only device of a listing fails at first. The next tick configures it once, which succeeds,
and the tick after that is unchanged. -/
theorem converges_after_retry :
    let listing := [Sample.device "2.2.2.2:51820"]
    let node := run ScriptedTunnel.driver [.tick (.ok listing)]
      (start Sample.home {} {} { script := [true] })
    let after := (node.fullPass ScriptedTunnel.driver (prepare node.localNode listing)).2
    Sample.key 1 ∈ node.reconciler.dirty ∧
      (((node.tickExchanges ScriptedTunnel.driver (.ok listing)).map Exchange.request).filter
        (Request.changes (Sample.key 1))).length = 1 ∧
      after.reconciler.dirty = [] ∧
      after.tickExchanges ScriptedTunnel.driver (.ok listing) = [] := by
  intro listing node after
  obtain ⟨retries, converges⟩ := retries_and_converges ScriptedTunnel.driver Sample.home {} {}
    { script := [true] } [.tick (.ok listing)]
  have dirty : Sample.key 1 ∈ node.reconciler.dirty := by decide +kernel
  have must : node.reconciler.mustRun node.localNode node.cache
      (prepare node.localNode listing) = true := by decide +kernel
  have clean : (node.fullPass ScriptedTunnel.driver
      (prepare node.localNode listing)).1.apply.isClean = true := by decide +kernel
  have ticked : node.tick ScriptedTunnel.driver (.ok listing) =
      (.ok (node.fullPass ScriptedTunnel.driver (prepare node.localNode listing)).1, after) :=
    if_pos must
  obtain ⟨⟨settled, _⟩, unchanged⟩ := converges listing _ after ticked rfl clean
  refine ⟨dirty, ?_, settled, (unchanged listing (List.nodup_singleton _) (List.Perm.refl _)).2⟩
  exact congrArg List.length (retries [] listing (Sample.key 1) (by simp) dirty)

end Node

end MeshNode
