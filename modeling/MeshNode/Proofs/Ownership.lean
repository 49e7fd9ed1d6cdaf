import MeshNode.Proofs.RouteTracking

/-!
# Routes and the keys that own them

One change has three ways to go: its request is refused, its walk over the routes
that it wants stops at one, or it is done. No way moves another key's routes. A change
that is done leaves its key with exactly the routes that it wants; one that fails
keeps whatever the key relied on before. Only a change that is done deletes routes:
those earlier ones of its own key that it no longer wants and that no other key relies
on.

What a change leaves on record tells what every reachable reconciler knows: a key that
is applied and not dirty relies on exactly the routes of its configuration. What it
deletes tells that a route stays untouched while one key goes on relying on it,
whatever else a pass changes and whichever requests fail.
-/

namespace MeshNode

/-- The prefixes of a peer that become routes: all but the default ones. -/
def TunnelPeer.routes (peer : TunnelPeer) : List Network :=
  peer.allowed.filter fun network => !network.isDefaultRoute

theorem TunnelPeer.mem_routes_iff (peer : TunnelPeer) (network : Network) :
    network ∈ peer.routes ↔ network ∈ peer.allowed ∧ network.isDefaultRoute = false := by
  simp [routes]

/-- The routes of what a key has in the tunnel. -/
def routesFor : Option TunnelPeer → List Network
  | some peer => peer.routes
  | none => []

/-- The prefixes that a change gives to its key; a removal gives none. -/
def Change.allowed : Change → List Network
  | .configure peer => peer.allowed
  | .remove _ => []

/-- The routes that a change wants for its key. -/
def Change.routes (change : Change) : List Network := routesFor change.wanted

theorem Change.routes_eq (change : Change) :
    change.routes = change.allowed.filter fun network => !network.isDefaultRoute := by
  cases change <;> rfl

namespace Applier

variable {World : Type}

/-! ## The three ways of a change -/

/-- The walk of a change over the routes that it wants, once its request was answered. -/
def walkFor (driver : Driver World) (change : Change) (world : World) : RouteWalk × World :=
  ensureRoutes driver {} change.allowed (driver.answer change.request world).2

/-- The earlier routes that a change deletes once all others are there. -/
def stale (applier : Applier) (change : Change) : List Network :=
  (applier.routesOf change.key).filter fun network =>
    !change.routes.contains network && !applier.ownedElsewhere change.key network

/-- A walk without failure owns in the end every route of its list, besides what it owned. -/
theorem owned_ensureRoutes (driver : Driver World) (networks : List Network) (walk : RouteWalk)
    (world : World) (success : (ensureRoutes driver walk networks world).1.failure = none) :
    (ensureRoutes driver walk networks world).1.owned =
      walk.owned ++ networks.filter fun network => !network.isDefaultRoute := by
  induction networks generalizing walk world with
  | nil => simp [ensureRoutes]
  | cons network rest inductionHypothesis =>
    by_cases offered : network.isDefaultRoute = true
    · simp only [ensureRoutes, if_pos offered] at success ⊢
      rw [inductionHypothesis _ _ success]
      simp [offered]
    · simp only [ensureRoutes, if_neg offered] at success ⊢
      cases asked : driver.ensureRoute network world with
      | mk answer next =>
        rw [asked] at success
        cases answer with
        | error error => cases success
        | ok done =>
          rw [inductionHypothesis _ _ success]
          simp [offered]

/-- The record with a key's routes replaced. -/
def replaced (applier : Applier) (key : PublicKey) (owned : List Network) : Applier :=
  ⟨if owned.isEmpty then applier.installed.erase key
    else (applier.installed.erase key).insert key owned⟩

@[simp] theorem routesOf_replaced (applier : Applier) (key : PublicKey) (owned : List Network)
    (other : PublicKey) :
    (applier.replaced key owned).routesOf other =
      if other = key then owned else applier.routesOf other := by
  unfold replaced
  split
  · rename_i none
    rw [routesOf_erase, List.isEmpty_iff.mp none]
  · have inserted := routesOf_insert ⟨applier.installed.erase key⟩ key owned other
    rw [inserted]
    by_cases same : other = key
    · rw [if_pos same, if_pos same]
    · rw [if_neg same, if_neg same, routesOf_erase, if_neg same]

/-- Everything a change can do. -/
theorem carryOut_cases (driver : Driver World) (applier : Applier) (world : World)
    (change : Change) :
    (∃ error, (driver.answer change.request world).1.isOk = false ∧
        carryOut driver applier world change =
          (some error, applier, (driver.answer change.request world).2)) ∨
      (∃ error, (driver.answer change.request world).1.isOk = true ∧
        (walkFor driver change world).1.failure = some error ∧
        carryOut driver applier world change =
          (some error,
            ⟨applier.installed.insert change.key
              (merged (applier.routesOf change.key) (walkFor driver change world).1.owned)⟩,
            (walkFor driver change world).2)) ∨
      ((driver.answer change.request world).1.isOk = true ∧
        (walkFor driver change world).1.failure = none ∧
        carryOut driver applier world change =
          (none, applier.replaced change.key change.routes,
            driver.deleteRoutes (applier.stale change) (walkFor driver change world).2)) := by
  cases change with
  | configure peer =>
    simp only [walkFor, stale, carryOut, applyPeer, Change.request, Change.allowed, Change.key]
    cases asked : driver.answer (.configure peer) world with
    | mk answer next =>
      cases answer with
      | error error => exact Or.inl ⟨error, rfl, rfl⟩
      | ok done =>
        refine Or.inr ?_
        dsimp only
        cases walked : (ensureRoutes driver {} peer.allowed next).1.failure with
        | some error => exact Or.inl ⟨error, rfl, rfl, rfl⟩
        | none =>
          have owned : (ensureRoutes driver {} peer.allowed next).1.owned =
              (Change.configure peer).routes :=
            owned_ensureRoutes driver peer.allowed {} next walked
          refine Or.inr ⟨rfl, rfl, ?_⟩
          simp only [failure?, owned, ownedElsewhere_erase]
          rfl
  | remove key =>
    simp only [walkFor, stale, carryOut, removePeer, Change.request, Change.allowed, Change.key,
      ensureRoutes]
    cases asked : driver.answer (.remove key) world with
    | mk answer next =>
      cases answer with
      | error error => exact Or.inl ⟨error, rfl, rfl⟩
      | ok done =>
        refine Or.inr (Or.inr ⟨rfl, trivial, ?_⟩)
        simp [failure?, replaced, ownedElsewhere_erase, Change.routes, Change.wanted, routesFor]

section Record

variable (driver : Driver World) (applier : Applier) (world : World) (change : Change)

/-- No other key's routes move. -/
theorem routesOf_carryOut_other (key : PublicKey) (other : key ≠ change.key) :
    (carryOut driver applier world change).2.1.routesOf key = applier.routesOf key := by
  rcases carryOut_cases driver applier world change with
    ⟨error, _, refused⟩ | ⟨error, _, _, stopped⟩ | ⟨_, _, done⟩
  · rw [refused]
  · rw [stopped, routesOf_insert, if_neg other]
  · rw [done, routesOf_replaced, if_neg other]

/-- A change that does not fail leaves its key with exactly the routes that it wants. -/
theorem routesOf_carryOut_self (success : (carryOut driver applier world change).1 = none) :
    (carryOut driver applier world change).2.1.routesOf change.key = change.routes := by
  rcases carryOut_cases driver applier world change with
    ⟨error, _, refused⟩ | ⟨error, _, _, stopped⟩ | ⟨_, _, done⟩
  · rw [refused] at success
    cases success
  · rw [stopped] at success
    cases success
  · rw [done, routesOf_replaced, if_pos rfl]

/-- A route that its key relied on and that the change wants is kept, failed or not. -/
theorem mem_routesOf_carryOut (network : Network)
    (listed : network ∈ applier.routesOf change.key) (wanted : network ∈ change.routes) :
    network ∈ (carryOut driver applier world change).2.1.routesOf change.key := by
  rcases carryOut_cases driver applier world change with
    ⟨error, _, refused⟩ | ⟨error, _, _, stopped⟩ | ⟨_, _, done⟩
  · rwa [refused]
  · rw [stopped, routesOf_insert, if_pos rfl]
    exact (mem_merged_iff network _ _).mpr (Or.inl listed)
  · rwa [done, routesOf_replaced, if_pos rfl]

/-- A change moves the record of routes, and what is reported, at its own key alone. -/
theorem routes_movesOwnKey :
    Change.MovesOwnKey (Pass.change driver) fun pass key =>
      (pass.applier.routesOf key, pass.report.failed key) := by
  intro pass change key other
  have kept : (pass.change driver change).applier.routesOf key = pass.applier.routesOf key := by
    rw [change_applier, routesOf_carryOut_other driver _ _ change key other]
  exact Prod.ext kept (failed_movesOwnKey driver pass change key other)

/-- Where no key is changed twice, a change that has not failed in the end left its key with the
routes that it wants. -/
theorem routesOf_foldl_self (changes : List Change) (pass : Pass World)
    (apart : (changes.map Change.key).Nodup) (member : change ∈ changes)
    (success : (changes.foldl (Pass.change driver) pass).report.failed change.key = false) :
    (changes.foldl (Pass.change driver) pass).applier.routesOf change.key = change.routes := by
  obtain ⟨before, same⟩ :=
    (routes_movesOwnKey driver).foldl_self changes pass apart change member
  obtain ⟨left, reported⟩ := Prod.mk.inj same
  rw [reported, change_failed] at success
  have carried : (carryOut driver before.applier before.world change).1 = none := by
    simpa using (Bool.or_eq_false_iff.mp success).2
  rw [left, change_applier, routesOf_carryOut_self driver _ _ change carried]

end Record

end Applier

/-! ## Requested deletions -/

/-- The prefix whose deletion a request asks for. -/
def Request.deleted? : Request → Option Network
  | .configure _ => none
  | .remove _ => none
  | .routeExists _ => none
  | .addRoute _ => none
  | .deleteRoute network => some network

/-- The prefixes whose deletion was requested, in order, granted or not. -/
def deletions (record : List Exchange) : List Network :=
  record.filterMap fun exchange => exchange.request.deleted?

theorem mem_deletions (record : List Exchange) (exchange : Exchange) (member : exchange ∈ record)
    (network : Network) (asked : exchange.request = .deleteRoute network) :
    network ∈ deletions record :=
  List.mem_filterMap.mpr ⟨exchange, member, by rw [asked]; rfl⟩

section Deletions

variable {World : Type} (driver : Driver World) (state : List Exchange × World)

/-- One request adds the deletion that it asks for, if it asks for one. -/
theorem deletions_answer (request : Request) :
    deletions (driver.logged.answer request state).2.1 =
      deletions state.1 ++ request.deleted?.toList := by
  cases request <;> simp [Driver.logged, deletions, Request.deleted?]

theorem deletions_ensureRoute (network : Network) :
    deletions (driver.logged.ensureRoute network state).2.1 = deletions state.1 := by
  have looked := deletions_answer driver state (.routeExists network)
  simp only [Request.deleted?, Option.toList_none, List.append_nil] at looked
  unfold Driver.ensureRoute
  split
  · simp_all
  · simp_all
  · rename_i next asked
    rw [asked] at looked
    rw [deletions_answer, looked]
    exact List.append_nil _

/-- A walk over routes deletes none. -/
theorem deletions_ensureRoutes (networks : List Network) (walk : Applier.RouteWalk) :
    deletions (Applier.ensureRoutes driver.logged walk networks state).2.1 =
      deletions state.1 := by
  induction networks generalizing walk state with
  | nil => rfl
  | cons network rest inductionHypothesis =>
    have ensured := deletions_ensureRoute driver state network
    unfold Applier.ensureRoutes
    split
    · exact inductionHypothesis state _
    · split <;> simp_all

theorem deletions_deleteRoutes (networks : List Network) :
    deletions (driver.logged.deleteRoutes networks state).1 = deletions state.1 ++ networks := by
  unfold Driver.deleteRoutes
  induction networks generalizing state with
  | nil => simp
  | cons network rest inductionHypothesis =>
    rw [List.foldl_cons, inductionHypothesis, deletions_answer, List.append_assoc]
    rfl

theorem deletions_walkFor (change : Change) :
    deletions (Applier.walkFor driver.logged change state).2.1 = deletions state.1 := by
  rw [Applier.walkFor, deletions_ensureRoutes, deletions_answer]
  cases change <;> simp [Change.request, Request.deleted?]

/-- What a change deletes is stale: its key relied on it, the change does not want it, and no
other key relies on it. -/
theorem mem_deletions_carryOut (applier : Applier) (change : Change) (network : Network)
    (asked : network ∈
      deletions (Applier.carryOut driver.logged applier state change).2.2.1) :
    network ∈ deletions state.1 ∨ network ∈ applier.stale change := by
  rcases Applier.carryOut_cases driver.logged applier state change with
    ⟨error, _, refused⟩ | ⟨error, _, _, stopped⟩ | ⟨_, _, done⟩
  · rw [refused, deletions_answer] at asked
    refine Or.inl ?_
    cases change <;> simpa [Change.request, Request.deleted?] using asked
  · rw [stopped, deletions_walkFor] at asked
    exact Or.inl asked
  · rw [done, deletions_deleteRoutes, deletions_walkFor] at asked
    exact List.mem_append.mp asked

end Deletions

namespace Applier

/-- A stale route is one that no key relies on once the change is done. -/
theorem not_mem_stale (applier : Applier) (change : Change) (key : PublicKey) (network : Network)
    (listed : network ∈ applier.routesOf key)
    (wanted : key = change.key → network ∈ change.routes) : network ∉ applier.stale change := by
  intro member
  obtain ⟨_, unwanted⟩ := List.mem_filter.mp member
  simp only [Bool.and_eq_true, Bool.not_eq_true', List.contains_eq_mem,
    decide_eq_false_iff_not] at unwanted
  by_cases own : key = change.key
  · exact unwanted.1 (wanted own)
  · have elsewhere := (applier.ownedElsewhere_iff change.key network).mpr ⟨key, own, listed⟩
    rw [unwanted.2] at elsewhere
    cases elsewhere

variable {World : Type} (driver : Driver World)

/-- A route that a key relies on, and that no change of the pass takes from this key, is still
relied on after the pass and was not deleted in it. -/
theorem kept_foldl (changes : List Change) (pass : Pass (List Exchange × World))
    (key : PublicKey) (network : Network) (listed : network ∈ pass.applier.routesOf key)
    (wanted : ∀ change ∈ changes, key = change.key → network ∈ change.routes) :
    let after := changes.foldl (Pass.change driver.logged) pass
    network ∈ after.applier.routesOf key ∧
      (network ∈ deletions after.world.1 → network ∈ deletions pass.world.1) := by
  induction changes generalizing pass with
  | nil => exact ⟨listed, id⟩
  | cons change rest inductionHypothesis =>
    have wantedNow := wanted change List.mem_cons_self
    have still : network ∈ (pass.change driver.logged change).applier.routesOf key := by
      rw [change_applier]
      by_cases own : key = change.key
      · subst own
        exact mem_routesOf_carryOut driver.logged _ _ change network listed (wantedNow rfl)
      · rwa [routesOf_carryOut_other driver.logged _ _ change key own]
    obtain ⟨kept, spared⟩ := inductionHypothesis (pass.change driver.logged change) still
      fun later member => wanted later (List.mem_cons_of_mem _ member)
    refine ⟨kept, fun asked => ?_⟩
    have before := spared asked
    rw [change_world] at before
    rcases mem_deletions_carryOut driver _ _ _ _ before with earlier | stale
    · exact earlier
    · exact absurd stale (not_mem_stale _ change key network listed wantedNow)

end Applier

/-! ## Every reachable node -/

namespace Reconciler

/-- Settling leaves the record of routes alone. -/
theorem applier_settle (report : ApplyReport) (added : List TunnelPeer)
    (removed : List PublicKey) (reconciler : Reconciler) :
    (settle report added removed reconciler).applier = reconciler.applier := by
  have kept := congrArg applier (settle_frame report added removed reconciler reconciler)
  exact kept

end Reconciler

namespace Node

open Reconciler

variable {World : Type} (driver : Driver World)

/-- A key that is not dirty relies on exactly the routes of what is applied for it. Only a key
without anything applied may still rely on what it relied on at the origin. -/
def OwnsRoutes (origin : Applier) (node : Node World) : Prop :=
  ∀ key, key ∉ node.reconciler.dirty →
    node.reconciler.applier.routesOf key = routesFor (node.reconciler.applied.get? key) ∨
      (node.reconciler.applied.get? key = none ∧
        node.reconciler.applier.routesOf key = origin.routesOf key)

theorem applier_fullPass (peers : List PeerRecord) (node : Node World) :
    (node.fullPass driver peers).2.reconciler.applier = (node.passOver driver peers).applier :=
  applier_settle _ _ _ _

/-- A full pass leaves the keys that are not dirty with the routes of what is applied. -/
theorem fullPass_ownsRoutes {origin : Applier} (peers : List PeerRecord) (node : Node World)
    (owns : node.OwnsRoutes origin) : (node.fullPass driver peers).2.OwnsRoutes origin := by
  intro key clean
  obtain ⟨dirty, applied⟩ := fullPass_settles driver peers node key
  have success : (node.passOver driver peers).report.failed key = false :=
    Bool.eq_false_iff.mpr fun failed => clean (dirty.mpr failed)
  have settled : (node.fullPass driver peers).2.reconciler.applied.get? key =
      (node.planFor peers).desired.get? key := applied success
  rw [applier_fullPass, settled, passOver_eq_foldl]
  rw [passOver_eq_foldl] at success
  by_cases changed : key ∈ (node.changesFor peers).map Change.key
  · obtain ⟨change, member, rfl⟩ := List.mem_map.mp changed
    rw [Applier.routesOf_foldl_self driver change _ _ (changesFor_nodup peers node) member success,
      Change.routes, node.reconciler.wanted_of_mem_difference _ (plan_keyed _ _) change member]
    exact Or.inl rfl
  · obtain ⟨wasClean, asDesired⟩ :=
      node.reconciler.settled_of_not_mem_difference _ (plan_keyed _ _) key changed
    have untouched := (Prod.mk.inj ((Applier.routes_movesOwnKey driver).foldl_other _
      ⟨{}, node.reconciler.applier, node.world⟩ key changed)).1
    have before := owns key wasClean
    rw [asDesired] at before
    rw [untouched]
    exact before

/-- After every run the keys that are not dirty rely on the routes of what is applied. -/
theorem run_ownsRoutes (localNode : LocalNode) (cache : DeviceCache) (applier : Applier)
    (world : World) (events : List NodeEvent) :
    (run driver events (start localNode cache applier world)).OwnsRoutes applier := by
  refine run_induction driver events ?passed ?awaited ?resumed ?recorded ?updated _ ?initial
  case passed => exact fun listing node owns => fullPass_ownsRoutes driver _ node owns
  case awaited => exact fun node owns => owns
  case resumed => exact fun node owns => owns
  case recorded => exact fun results node owns => owns
  case updated => exact fun change _ node owns => owns
  case initial => exact fun key _ => Or.inr ⟨rfl, rfl⟩

/-- An applied key that is not dirty relies on the routes of its configuration. -/
theorem OwnsRoutes.of_applied {origin : Applier} {node : Node World}
    (owns : node.OwnsRoutes origin) {key : PublicKey} {peer : TunnelPeer}
    (clean : key ∉ node.reconciler.dirty)
    (applied : node.reconciler.applied.get? key = some peer) :
    node.reconciler.applier.routesOf key = peer.routes := by
  rcases owns key clean with owned | ⟨vacant, _⟩
  · rw [owned, applied]
    rfl
  · rw [vacant] at applied
    cases applied

/-- Once nothing is dirty, exactly the routes of what is applied are relied on. -/
theorem relies_iff_applied {node : Node World} (owns : node.OwnsRoutes {})
    (settled : node.reconciler.dirty = []) (network : Network) :
    node.reconciler.applier.Relies network ↔
      ∃ key peer, node.reconciler.applied.get? key = some peer ∧ network ∈ peer.routes := by
  have owned : ∀ key, node.reconciler.applier.routesOf key =
      routesFor (node.reconciler.applied.get? key) := by
    intro key
    rcases owns key (by rw [settled]; exact List.not_mem_nil) with own | ⟨vacant, none⟩
    · exact own
    · rw [vacant, none]
      rfl
  simp only [Applier.Relies, owned]
  constructor
  · rintro ⟨key, listed⟩
    cases applied : node.reconciler.applied.get? key with
    | none =>
      rw [applied] at listed
      cases listed
    | some peer =>
      rw [applied] at listed
      exact ⟨key, peer, applied, listed⟩
  · rintro ⟨key, peer, applied, listed⟩
    refine ⟨key, ?_⟩
    rw [applied]
    exact listed

end Node

end MeshNode
