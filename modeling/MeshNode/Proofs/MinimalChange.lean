import MeshNode.Proofs.Convergence
import MeshNode.Proofs.Ownership

/-!
# A pass changes no more than it must

The difference holds one change for each key that is dirty or applied otherwise than
it is desired, and none for any other key, so a full pass requests exactly these
changes, whatever fails in it.

Routes are spared in the same way. A key that is applied and not dirty relies on the
routes of its configuration, and of those it goes on relying on the ones that are
desired for it still. So none of them is deleted, whichever other peers share them and
are changed, removed or fail in the same pass.
-/

namespace MeshNode

namespace Change

/-- The change that leaves a key with what is desired for it. -/
def toReach (key : PublicKey) : Option TunnelPeer → Change
  | some peer => .configure peer
  | none => .remove key

theorem request_toReach (key : PublicKey) (wanted : Option TunnelPeer) :
    (toReach key wanted).request =
      match wanted with
      | some peer => .configure peer
      | none => .remove key := by
  cases wanted <;> rfl

/-- A change is decided by its key and by what it wants there. -/
theorem eq_toReach (change : Change) : change = toReach change.key change.wanted := by
  cases change <;> rfl

/-- Where no change is about a key, no request is made for it. -/
theorem requests_of_not_mem (changes : List Change) (key : PublicKey)
    (absent : key ∉ changes.map Change.key) :
    (changes.map request).filter (Request.changes key) = [] := by
  rw [List.filter_eq_nil_iff]
  intro made member
  obtain ⟨change, changeMember, rfl⟩ := List.mem_map.mp member
  have other : change.key ≠ key := fun same =>
    absent (List.mem_map.mpr ⟨change, changeMember, same⟩)
  simp [changes_request, other]

end Change

namespace Reconciler

/-- The difference holds exactly the changes towards what is desired for the keys that are dirty
or applied otherwise. -/
theorem mem_difference_iff (reconciler : Reconciler) (desired : Table PublicKey TunnelPeer)
    (keyed : Keyed desired) (change : Change) :
    change ∈ reconciler.difference desired ↔
      change.wanted = desired.get? change.key ∧
        (change.key ∈ reconciler.dirty ∨
          reconciler.applied.get? change.key ≠ desired.get? change.key) := by
  cases change with
  | configure peer =>
    simp only [difference, Change.ofPass, List.mem_append, List.mem_map, reduceCtorEq, and_false,
      exists_false, or_false, Change.configure.injEq, exists_eq_right,
      mem_toConfigure_iff reconciler desired keyed, Change.wanted, Change.key]
    constructor
    · rintro ⟨found, why⟩
      exact ⟨found.symm, by rwa [found]⟩
    · rintro ⟨found, why⟩
      exact ⟨found.symm, by rwa [← found] at why⟩
  | remove key =>
    simp only [difference, Change.ofPass, List.mem_append, List.mem_map, reduceCtorEq, and_false,
      exists_false, false_or, Change.remove.injEq, exists_eq_right, mem_toRemove_iff,
      Change.wanted, Change.key, Table.contains]
    constructor
    · rintro ⟨held | dirty, unwanted⟩
      · refine ⟨unwanted.symm, Or.inr fun same => ?_⟩
        rw [same, unwanted] at held
        cases held
      · exact ⟨unwanted.symm, Or.inl dirty⟩
    · rintro ⟨unwanted, dirty | differs⟩
      · exact ⟨Or.inr dirty, unwanted.symm⟩
      · rw [← unwanted] at differs
        exact ⟨Or.inl (Option.isSome_iff_ne_none.mpr differs), unwanted.symm⟩

end Reconciler

namespace Node

open Reconciler

variable {World : Type} (driver : Driver World)

section Pass

variable (peers : List PeerRecord) (node : Node World)

/-- A full pass requests one change of each key that is dirty or applied otherwise than desired,
and none of any other key. -/
theorem requests_of_key (key : PublicKey) :
    ((node.passExchanges driver peers).map Exchange.request).filter (Request.changes key) =
      if key ∈ node.reconciler.dirty ∨
          node.reconciler.applied.get? key ≠ (node.planFor peers).desired.get? key then
        [(Change.toReach key ((node.planFor peers).desired.get? key)).request]
      else [] := by
  have keyed : Keyed (node.planFor peers).desired := plan_keyed _ _
  have holds := node.reconciler.mem_difference_iff (node.planFor peers).desired keyed
  rw [← filter_changes_peerRequests, peerRequests_passExchanges]
  by_cases changed : key ∈ (node.changesFor peers).map Change.key
  · obtain ⟨change, member, rfl⟩ := List.mem_map.mp changed
    obtain ⟨wanted, why⟩ := (holds change).mp member
    rw [if_pos why, ← wanted, ← change.eq_toReach]
    exact Change.requests_of_mem _ (changesFor_nodup peers node) change member
  · have settled := node.reconciler.settled_of_not_mem_difference _ keyed key changed
    rw [if_neg fun why => why.elim settled.1 fun differs => differs settled.2]
    exact Change.requests_of_not_mem _ key changed

/-- A full pass deletes no route that an applied key relies on and is to keep. -/
theorem kept_route_not_deleted {origin : Applier} (owns : node.OwnsRoutes origin)
    (key : PublicKey) (before after : TunnelPeer) (clean : key ∉ node.reconciler.dirty)
    (applied : node.reconciler.applied.get? key = some before)
    (desired : (node.planFor peers).desired.get? key = some after) (network : Network)
    (had : network ∈ before.routes) (has : network ∈ after.routes) :
    network ∉ deletions (node.passExchanges driver peers) := by
  have record : node.passExchanges driver peers =
      ((node.changesFor peers).foldl (Applier.Pass.change driver.logged)
        ⟨{}, node.reconciler.applier, ([], node.world)⟩).world.1 :=
    congrArg (fun pass => pass.world.1) (passOver_eq_foldl driver.logged peers node.recording)
  have listed : network ∈ node.reconciler.applier.routesOf key := by
    rwa [owns.of_applied clean applied]
  have wanted : ∀ change ∈ node.changesFor peers, key = change.key →
      network ∈ change.routes := by
    rintro change member rfl
    have reached : change.wanted = some after :=
      (node.reconciler.wanted_of_mem_difference _ (plan_keyed _ _) change member).trans desired
    rw [Change.routes, reached]
    exact has
  intro asked
  rw [record] at asked
  have before := (Applier.kept_foldl driver (node.changesFor peers)
    ⟨{}, node.reconciler.applier, ([], node.world)⟩ key network listed wanted).2 asked
  cases before

end Pass

/-- In every reachable state a tick that makes a full pass, whatever fails in it: requests one
change of each key that is dirty or applied otherwise than desired, the configuration that is
desired for it or else its removal, and none of any other key; and deletes no route that an
applied key which is not dirty has by its old configuration and by the desired one. -/
theorem pass_is_minimal (localNode : LocalNode) (cache : DeviceCache) (applier : Applier)
    (world : World) (events : List NodeEvent) (listing : List PeerRecord) :
    let node := run driver events (start localNode cache applier world)
    let peers := prepare node.localNode listing
    let desired := (node.planFor peers).desired
    let exchanges := node.tickExchanges driver (.ok listing)
    node.reconciler.mustRun node.localNode node.cache peers = true →
      (∀ key, (exchanges.map Exchange.request).filter (Request.changes key) =
        if key ∈ node.reconciler.dirty ∨
            node.reconciler.applied.get? key ≠ desired.get? key then
          [match desired.get? key with
            | some peer => .configure peer
            | none => .remove key]
        else []) ∧
      ∀ (key : PublicKey) (before after : TunnelPeer), key ∉ node.reconciler.dirty →
        node.reconciler.applied.get? key = some before → desired.get? key = some after →
        ∀ network ∈ before.allowed, network ∈ after.allowed → network.length ≠ 0 →
        ∀ exchange ∈ exchanges, exchange.request ≠ .deleteRoute network := by
  intro node peers desired exchanges must
  have passed : exchanges = node.passExchanges driver peers := by
    simp only [exchanges, tickExchanges_eq]
    exact if_pos must
  constructor
  · intro key
    rw [passed, requests_of_key driver peers node key, Change.request_toReach]
  · intro key before after clean applied wanted network had has proper exchange member asked
    have isRoute : network.isDefaultRoute = false := by
      simpa [Network.isDefaultRoute] using proper
    have owns : node.OwnsRoutes applier :=
      run_ownsRoutes driver localNode cache applier world events
    rw [passed] at member
    exact kept_route_not_deleted driver peers node owns key before after clean applied wanted
      network ((before.mem_routes_iff network).mpr ⟨had, isRoute⟩)
      ((after.mem_routes_iff network).mpr ⟨has, isRoute⟩)
      (mem_deletions _ exchange member network asked)

/-- Two devices share a route. The removal of the first fails, and when it is tried again the
second gets one more route, which fails too. The first is removed once and its own route is
deleted; the shared one is not. -/
theorem shared_route_spared :
    let first := { Sample.device "2.2.2.2:51820" with advertised := [Sample.network 7] }
    let second (advertised : List Network) : PeerRecord :=
      { Sample.device "2.2.2.2:51820" with
        id := ⟨2⟩
        publicKey := Sample.key 2
        allowed := [Sample.network 2]
        advertised }
    let node := run ScriptedTunnel.driver
      [.tick (.ok [first]), .tick (.ok [second [Sample.network 7]])]
      (start Sample.home {} {}
        { script := List.replicate 9 false ++ [true] ++ List.replicate 4 false ++ [true] })
    let exchanges := node.tickExchanges ScriptedTunnel.driver
      (.ok [second [Sample.network 7, Sample.network 9]])
    (exchanges.map Exchange.request).filter (Request.changes (Sample.key 1)) =
        [.remove (Sample.key 1)] ∧
      ⟨.addRoute (Sample.network 9), false⟩ ∈ exchanges ∧
      ⟨.deleteRoute (Sample.network 1), true⟩ ∈ exchanges ∧
      ∀ exchange ∈ exchanges, exchange.request ≠ .deleteRoute (Sample.network 7) := by
  intro first second node exchanges
  have must : node.reconciler.mustRun node.localNode node.cache
      (prepare node.localNode [second [Sample.network 7, Sample.network 9]]) = true := by
    decide +kernel
  obtain ⟨once, spared⟩ := pass_is_minimal ScriptedTunnel.driver Sample.home {} {} _ _ _ must
  have dirty : Sample.key 1 ∈ node.reconciler.dirty := by decide +kernel
  have changed := (once (Sample.key 1)).trans (if_pos (Or.inl dirty))
  have clean : Sample.key 2 ∉ node.reconciler.dirty := by decide +kernel
  let peer (allowed : List Network) : TunnelPeer :=
    ⟨Sample.key 2, ⟨.v4 0x02020202, 51820, 0⟩, allowed, none, .reflexive⟩
  have applied : node.reconciler.applied.get? (Sample.key 2) =
      some (peer [Sample.network 2, Sample.network 7]) := by decide +kernel
  have desired : (node.planFor (prepare node.localNode
      [second [Sample.network 7, Sample.network 9]])).desired.get? (Sample.key 2) =
        some (peer [Sample.network 2, Sample.network 7, Sample.network 9]) := by decide +kernel
  refine ⟨changed.trans (by decide +kernel), by decide +kernel, by decide +kernel, ?_⟩
  exact spared (Sample.key 2) _ _ clean applied desired (Sample.network 7) (by decide)
    (by decide) (by decide)

end Node

end MeshNode
