import MeshNode.Proofs.Requests
import MeshNode.Proofs.TunnelLaws

/-!
# Route tracking

The applier writes down for every key the routes that it relies on. Over a tunnel
that holds routes this record is exact, whatever fails: a route on record is always
in the tunnel; a route in the tunnel is on record unless it was there at the start
or a deletion of it failed; and no default route is ever added or deleted.

A single set carries the proof, the prefixes that are relied on while a change is
under way: those on record before it, those the walk over its own prefixes has made
sure of, and no longer those whose deletion was requested. Every request keeps the
tunnel in step with this set, and after the change it is what is on record.
-/

namespace MeshNode

variable {World : Type}

/-- A default route is neither added nor deleted by an exchange. -/
def Exchange.SparesDefault (exchange : Exchange) : Prop :=
  ∀ network, exchange.request = .addRoute network ∨ exchange.request = .deleteRoute network →
    network.isDefaultRoute = false

/-- A tunnel and the record of its exchanges, in step with the prefixes that are relied on. -/
structure Tracked (routed : World → Network → Prop) (origin relied : Network → Prop)
    (state : List Exchange × World) : Prop where
  /-- What is relied on is routed. -/
  present : ∀ network, relied network → routed state.2 network
  notDefault : ∀ network, relied network → network.isDefaultRoute = false
  /-- What is routed was so at the start, could not be deleted, or is relied on. -/
  accounted : ∀ network, routed state.2 network →
    origin network ∨ ⟨.deleteRoute network, false⟩ ∈ state.1 ∨ relied network
  spared : ∀ exchange ∈ state.1, exchange.SparesDefault

namespace Tracked

variable {driver : Driver World} {routed : World → Network → Prop}
  {origin relied : Network → Prop} {state : List Exchange × World}

theorem of_iff (tracked : Tracked routed origin relied state) {other : Network → Prop}
    (same : ∀ network, other network ↔ relied network) : Tracked routed origin other state where
  present network relies := tracked.present network ((same network).mp relies)
  notDefault network relies := tracked.notDefault network ((same network).mp relies)
  accounted network there := by
    rw [same network]
    exact tracked.accounted network there
  spared := tracked.spared

/-- A route that is there may be relied on. -/
theorem rely (tracked : Tracked routed origin relied state) (network : Network)
    (proper : network.isDefaultRoute = false) (there : routed state.2 network) :
    Tracked routed origin (fun other => relied other ∨ other = network) state where
  present other relies := by
    rcases relies with before | rfl
    · exact tracked.present other before
    · exact there
  notDefault other relies := by
    rcases relies with before | rfl
    · exact tracked.notDefault other before
    · exact proper
  accounted other found := (tracked.accounted other found).imp_right (Or.imp_right Or.inl)
  spared := tracked.spared

/-- One more exchange is kept on record with the others. -/
theorem spared_append (tracked : Tracked routed origin relied state) (exchange : Exchange)
    (spares : exchange.SparesDefault) :
    ∀ other ∈ state.1 ++ [exchange], other.SparesDefault := by
  intro other member
  rcases List.mem_append.mp member with earlier | last
  · exact tracked.spared other earlier
  · rw [List.mem_singleton.mp last]
    exact spares

/-- A request that changes no route keeps step. -/
theorem answer_of_same (tracked : Tracked routed origin relied state) (request : Request)
    (same : ∀ network, routed (driver.answer request state.2).2 network ↔ routed state.2 network)
    (spares : ∀ granted, Exchange.SparesDefault ⟨request, granted⟩) :
    Tracked routed origin relied (driver.logged.answer request state).2 where
  present network relies := (same network).mpr (tracked.present network relies)
  notDefault := tracked.notDefault
  accounted network there := by
    rcases tracked.accounted network ((same network).mp there) with first | failed | relies
    · exact Or.inl first
    · exact Or.inr (Or.inl (List.mem_append_left _ failed))
    · exact Or.inr (Or.inr relies)
  spared := tracked.spared_append _ (spares _)

section Requests

variable (holds : HoldsRoutes driver routed)

include holds

/-- The request of a change keeps step. -/
theorem change (tracked : Tracked routed origin relied state) (change : Change) :
    Tracked routed origin relied (driver.logged.answer change.request state).2 := by
  refine tracked.answer_of_same change.request (holds.changed change state.2) ?_
  intro granted network asked
  cases change <;> rcases asked with asked | asked <;> cases asked

/-- Looking for a route keeps step. -/
theorem look (tracked : Tracked routed origin relied state) (network : Network) :
    Tracked routed origin relied (driver.logged.answer (.routeExists network) state).2 := by
  refine tracked.answer_of_same _ (holds.looked network state.2) ?_
  rintro granted other (asked | asked) <;> cases asked

/-- A route that is added is relied on from then on, unless the addition fails. -/
theorem add (tracked : Tracked routed origin relied state) (network : Network)
    (proper : network.isDefaultRoute = false) :
    Tracked routed origin
      (fun other => relied other ∨
        ((driver.logged.answer (.addRoute network) state).1.isOk = true ∧ other = network))
      (driver.logged.answer (.addRoute network) state).2 where
  present other relies :=
    (holds.added network state.2 other).mpr (relies.imp_left (tracked.present other))
  notDefault other relies := by
    rcases relies with before | ⟨_, rfl⟩
    · exact tracked.notDefault other before
    · exact proper
  accounted other there := by
    rcases (holds.added network state.2 other).mp there with before | now
    · rcases tracked.accounted other before with first | failed | relies
      · exact Or.inl first
      · exact Or.inr (Or.inl (List.mem_append_left _ failed))
      · exact Or.inr (Or.inr (Or.inl relies))
    · exact Or.inr (Or.inr (Or.inr now))
  spared := by
    refine tracked.spared_append _ ?_
    rintro other (asked | asked)
    · cases asked
      exact proper
    · cases asked

/-- A route whose deletion is requested is no longer relied on. Where the deletion fails, the
record of it accounts for the route. -/
theorem delete (tracked : Tracked routed origin relied state) (network : Network)
    (proper : network.isDefaultRoute = false) :
    Tracked routed origin (fun other => relied other ∧ other ≠ network)
      (driver.logged.answer (.deleteRoute network) state).2 where
  present other relies :=
    (holds.deleted network state.2 other).mpr
      ⟨tracked.present other relies.1, fun gone => relies.2 gone.2⟩
  notDefault other relies := tracked.notDefault other relies.1
  accounted other there := by
    obtain ⟨before, stays⟩ := (holds.deleted network state.2 other).mp there
    rcases tracked.accounted other before with first | failed | relies
    · exact Or.inl first
    · exact Or.inr (Or.inl (List.mem_append_left _ failed))
    · by_cases same : other = network
      · have refused : (driver.answer (.deleteRoute network) state.2).1.isOk = false :=
          Bool.eq_false_iff.mpr fun granted => stays ⟨granted, same⟩
        refine Or.inr (Or.inl (List.mem_append_right _ ?_))
        rw [refused, same]
        exact List.mem_singleton_self _
      · exact Or.inr (Or.inr ⟨relies, same⟩)
  spared := by
    refine tracked.spared_append _ ?_
    rintro other (asked | asked)
    · cases asked
    · cases asked
      exact proper

/-- A route that was made sure of is relied on from then on, whether it was there or added. -/
theorem ensureRoute (tracked : Tracked routed origin relied state) (network : Network)
    (proper : network.isDefaultRoute = false) :
    Tracked routed origin
      (fun other => relied other ∨
        ((driver.logged.ensureRoute network state).1.isOk = true ∧ other = network))
      (driver.logged.ensureRoute network state).2 := by
  have looked := tracked.look holds network
  unfold Driver.ensureRoute
  split
  · rename_i error next asked
    rw [asked] at looked
    exact looked.of_iff fun other => by simp [Except.isOk, Except.toBool]
  · rename_i next asked
    rw [asked] at looked
    have found : routed state.2 network :=
      (holds.found network state.2 true (congrArg Prod.fst asked)).mp rfl
    have moved : (driver.answer (.routeExists network) state.2).2 = next.2 :=
      congrArg (fun answer => answer.2.2) asked
    have stays : routed next.2 network :=
      moved ▸ (holds.looked network state.2 network).mpr found
    refine (looked.rely network proper stays).of_iff fun other => ?_
    simp [Except.isOk, Except.toBool]
  · rename_i next asked
    rw [asked] at looked
    exact looked.add holds network proper

/-- The walk over a peer's routes adds to what is relied on exactly the routes that it owns in the
end, wherever it stops. -/
theorem ensureRoutes (networks : List Network) (walk : Applier.RouteWalk)
    (tracked : Tracked routed origin (fun network => relied network ∨ network ∈ walk.owned)
      state) :
    Tracked routed origin
      (fun network => relied network ∨
        network ∈ (Applier.ensureRoutes driver.logged walk networks state).1.owned)
      (Applier.ensureRoutes driver.logged walk networks state).2 := by
  refine @Applier.ensureRoutes_induction _ driver.logged
    (fun owned next => Tracked routed origin (fun network => relied network ∨ network ∈ owned) next)
    ?_ networks walk state tracked
  intro owned network next proper before
  refine (before.ensureRoute holds network proper).of_iff fun other => ?_
  split <;> simp_all [or_assoc]

/-- Routes whose deletion was requested are no longer relied on. -/
theorem deleteRoutes (tracked : Tracked routed origin relied state) (networks : List Network)
    (proper : ∀ network ∈ networks, network.isDefaultRoute = false) :
    Tracked routed origin (fun network => relied network ∧ network ∉ networks)
      (driver.logged.deleteRoutes networks state) := by
  unfold Driver.deleteRoutes
  induction networks generalizing relied state with
  | nil => exact tracked.of_iff fun network => by simp
  | cons network rest inductionHypothesis =>
    have deleted := tracked.delete holds network (proper network List.mem_cons_self)
    have remaining := inductionHypothesis deleted fun other member =>
      proper other (List.mem_cons_of_mem _ member)
    refine remaining.of_iff fun other => ?_
    simp [and_assoc]

end Requests

end Tracked

namespace Applier

section Memory

variable (applier : Applier) (key : PublicKey) (network : Network)

/-- Some key relies on a route. -/
def Relies : Prop := ∃ key, network ∈ applier.routesOf key

theorem mem_routesOf_iff :
    network ∈ applier.routesOf key ↔
      ∃ networks, applier.installed.get? key = some networks ∧ network ∈ networks := by
  unfold routesOf
  cases applier.installed.get? key <;> simp

theorem routesOf_insert (networks : List Network) (other : PublicKey) :
    routesOf ⟨applier.installed.insert key networks⟩ other =
      if other = key then networks else applier.routesOf other := by
  simp only [routesOf, Table.get?_insert]
  split <;> rfl

theorem routesOf_erase (other : PublicKey) :
    routesOf ⟨applier.installed.erase key⟩ other =
      if other = key then [] else applier.routesOf other := by
  simp only [routesOf, Table.get?_erase]
  split <;> rfl

/-- A route is owned elsewhere exactly if another key relies on it. -/
theorem ownedElsewhere_iff :
    applier.ownedElsewhere key network = true ↔
      ∃ other, other ≠ key ∧ network ∈ applier.routesOf other := by
  simp only [ownedElsewhere, List.any_eq_true, Bool.and_eq_true, decide_eq_true_eq,
    List.contains_iff_mem, mem_routesOf_iff, Table.get?_eq_some_iff]
  constructor
  · rintro ⟨⟨other, networks⟩, member, different, listed⟩
    exact ⟨other, different, networks, member, listed⟩
  · rintro ⟨other, different, networks, member, listed⟩
    exact ⟨(other, networks), member, different, listed⟩

/-- What another key relies on is not changed by forgetting a key. -/
theorem ownedElsewhere_erase :
    ownedElsewhere ⟨applier.installed.erase key⟩ key network =
      applier.ownedElsewhere key network := by
  rw [Bool.eq_iff_iff, ownedElsewhere_iff, ownedElsewhere_iff]
  constructor
  · rintro ⟨other, different, listed⟩
    rw [routesOf_erase, if_neg different] at listed
    exact ⟨other, different, listed⟩
  · rintro ⟨other, different, listed⟩
    refine ⟨other, different, ?_⟩
    rwa [routesOf_erase, if_neg different]

theorem mem_merged_iff (earlier new : List Network) :
    network ∈ merged earlier new ↔ network ∈ earlier ∨ network ∈ new := by
  unfold merged
  induction new generalizing earlier with
  | nil => simp
  | cons first rest inductionHypothesis =>
    rw [List.foldl_cons, inductionHypothesis]
    by_cases known : first ∈ earlier
    · rw [if_pos known, List.mem_cons]
      constructor
      · exact Or.imp_right Or.inr
      · rintro (before | rfl | later)
        · exact Or.inl before
        · exact Or.inl known
        · exact Or.inr later
    · simp [known, or_assoc]

end Memory

/-- Where a key's routes are replaced and the stale ones given up, what is relied on afterwards
is what was relied on or is new, less the stale. -/
theorem relies_replaced (before after : Applier) (key : PublicKey) (owned stale : List Network)
    (own : after.routesOf key = owned)
    (others : ∀ other, other ≠ key → after.routesOf other = before.routesOf other)
    (givenUp : ∀ network, network ∈ stale ↔ network ∈ before.routesOf key ∧ network ∉ owned ∧
      before.ownedElsewhere key network = false) (network : Network) :
    after.Relies network ↔ (before.Relies network ∨ network ∈ owned) ∧ network ∉ stale := by
  rw [givenUp]
  constructor
  · rintro ⟨other, listed⟩
    by_cases same : other = key
    · rw [same, own] at listed
      exact ⟨Or.inr listed, fun stale => stale.2.1 listed⟩
    · rw [others other same] at listed
      have elsewhere := (before.ownedElsewhere_iff key network).mpr ⟨other, same, listed⟩
      refine ⟨Or.inl ⟨other, listed⟩, fun stale => ?_⟩
      rw [elsewhere] at stale
      cases stale.2.2
  · rintro ⟨⟨other, listed⟩ | new, kept⟩
    · by_cases same : other = key
      · rw [same] at listed
        by_cases still : network ∈ owned
        · exact ⟨key, by rwa [own]⟩
        · have elsewhere : before.ownedElsewhere key network = true :=
            Bool.of_not_eq_false fun alone => kept ⟨listed, still, alone⟩
          obtain ⟨third, different, shared⟩ := (before.ownedElsewhere_iff key network).mp elsewhere
          exact ⟨third, by rwa [others third different]⟩
      · exact ⟨other, by rwa [others other same]⟩
    · exact ⟨key, by rwa [own]⟩

/-- Where a key keeps its routes and gains others, what is relied on afterwards is what was
relied on or is new. -/
theorem relies_merged (applier : Applier) (key : PublicKey) (owned : List Network)
    (network : Network) :
    Relies ⟨applier.installed.insert key (merged (applier.routesOf key) owned)⟩ network ↔
      applier.Relies network ∨ network ∈ owned := by
  constructor
  · rintro ⟨other, listed⟩
    rw [routesOf_insert] at listed
    split at listed
    · rcases (mem_merged_iff network _ _).mp listed with before | new
      · exact Or.inl ⟨key, before⟩
      · exact Or.inr new
    · exact Or.inl ⟨other, listed⟩
  · rintro (⟨other, listed⟩ | new)
    · refine ⟨other, ?_⟩
      rw [routesOf_insert]
      split
      · rename_i same
        exact (mem_merged_iff network _ _).mpr (Or.inl (same ▸ listed))
      · exact listed
    · refine ⟨key, ?_⟩
      rw [routesOf_insert, if_pos rfl]
      exact (mem_merged_iff network _ _).mpr (Or.inr new)

end Applier

namespace Tracked

open Applier

variable {driver : Driver World} {routed : World → Network → Prop} {origin : Network → Prop}
  {applier : Applier} {state : List Exchange × World}

/-- Replacing the routes of a key and deleting the stale ones keeps step. -/
theorem replace (holds : HoldsRoutes driver routed) (after : Applier) (key : PublicKey)
    (owned stale : List Network)
    (tracked : Tracked routed origin (fun network => applier.Relies network ∨ network ∈ owned)
      state)
    (own : after.routesOf key = owned)
    (others : ∀ other, other ≠ key → after.routesOf other = applier.routesOf other)
    (givenUp : ∀ network, network ∈ stale ↔ network ∈ applier.routesOf key ∧ network ∉ owned ∧
      applier.ownedElsewhere key network = false) :
    Tracked routed origin after.Relies (driver.logged.deleteRoutes stale state) := by
  have proper : ∀ network ∈ stale, network.isDefaultRoute = false := fun network member =>
    tracked.notDefault network (Or.inl ⟨key, ((givenUp network).mp member).1⟩)
  exact (tracked.deleteRoutes holds stale proper).of_iff
    (relies_replaced applier after key owned stale own others givenUp)

/-- Every change keeps the tunnel in step with what is on record. -/
theorem carryOut (holds : HoldsRoutes driver routed)
    (tracked : Tracked routed origin applier.Relies state) (change : Change) :
    Tracked routed origin (Applier.carryOut driver.logged applier state change).2.1.Relies
      (Applier.carryOut driver.logged applier state change).2.2 := by
  have requested := tracked.change holds change
  cases change with
  | configure peer =>
    simp only [Applier.carryOut, applyPeer]
    split
    · rename_i error next asked
      rw [Change.request, asked] at requested
      exact requested
    · rename_i next asked
      rw [Change.request, asked] at requested
      have began : Tracked routed origin
          (fun network => applier.Relies network ∨ network ∈ ({} : RouteWalk).owned) next :=
        requested.of_iff fun network => by simp
      have walked := began.ensureRoutes holds peer.allowed {}
      split
      · exact walked.of_iff (relies_merged applier peer.publicKey _)
      · refine walked.replace holds _ peer.publicKey _ _ ?_ ?_ fun network => ?_
        · split
          · rename_i none
            rw [routesOf_erase, if_pos rfl, List.isEmpty_iff.mp none]
          · rw [routesOf_insert, if_pos rfl]
        · intro other different
          split
          · rw [routesOf_erase, if_neg different]
          · rw [routesOf_insert, if_neg different, routesOf_erase, if_neg different]
        · simp [ownedElsewhere_erase]
  | remove key =>
    simp only [Applier.carryOut, removePeer]
    split
    · rename_i error next asked
      rw [Change.request, asked] at requested
      exact requested
    · rename_i next asked
      rw [Change.request, asked] at requested
      have before : Tracked routed origin
          (fun network => applier.Relies network ∨ network ∈ ([] : List Network)) next :=
        requested.of_iff fun network => by simp
      refine before.replace holds _ key [] _ ?_ ?_ fun network => ?_
      · rw [routesOf_erase, if_pos rfl]
      · intro other different
        rw [routesOf_erase, if_neg different]
      · simp [ownedElsewhere_erase]

/-- Every pass keeps the tunnel in step with what is on record. -/
theorem apply (holds : HoldsRoutes driver routed) (added : List TunnelPeer)
    (removed : List PublicKey) (tracked : Tracked routed origin applier.Relies state) :
    Tracked routed origin
      (Applier.apply driver.logged added removed applier state).applier.Relies
      (Applier.apply driver.logged added removed applier state).world :=
  @apply_induction _ driver.logged (fun applier state => Tracked routed origin applier.Relies state)
    (fun _ _ change before => before.carryOut holds change) added removed applier state tracked

end Tracked

/-! ## Any number of passes -/

namespace Applier

/-- Passes with the given peers to configure and keys to remove, one after another. -/
def applyAll (driver : Driver World) (batches : List (List TunnelPeer × List PublicKey))
    (applier : Applier) (world : World) : Applier × World :=
  batches.foldl (fun state batch =>
    let pass := apply driver batch.1 batch.2 state.1 state.2
    (pass.applier, pass.world)) (applier, world)

theorem applyAll_cons (driver : Driver World) (batch : List TunnelPeer × List PublicKey)
    (rest : List (List TunnelPeer × List PublicKey)) (applier : Applier) (world : World) :
    applyAll driver (batch :: rest) applier world =
      applyAll driver rest (apply driver batch.1 batch.2 applier world).applier
        (apply driver batch.1 batch.2 applier world).world := rfl

/-- Recording changes neither the applier's memory nor the tunnel. -/
theorem applyAll_logged (driver : Driver World)
    (batches : List (List TunnelPeer × List PublicKey)) (applier : Applier)
    (state : List Exchange × World) :
    applyAll driver batches applier state.2 =
      ((applyAll driver.logged batches applier state).1,
        (applyAll driver.logged batches applier state).2.2) := by
  induction batches generalizing applier state with
  | nil => rfl
  | cons batch rest inductionHypothesis =>
    have passed := driver.follows_logged.foldl_change (Change.ofPass batch.1 batch.2)
      ⟨{}, applier, state⟩
    rw [applyAll_cons, applyAll_cons, ← inductionHypothesis, apply_eq_foldl, apply_eq_foldl]
    exact congrArg (fun pass : Pass World => applyAll driver rest pass.applier pass.world) passed

/-- What every change keeps, any number of passes keeps. -/
theorem applyAll_induction {driver : Driver World} {invariant : Applier → World → Prop}
    (changed : ∀ applier world change, invariant applier world →
      invariant (carryOut driver applier world change).2.1
        (carryOut driver applier world change).2.2)
    (batches : List (List TunnelPeer × List PublicKey)) (applier : Applier) (world : World)
    (initial : invariant applier world) :
    invariant (applyAll driver batches applier world).1
      (applyAll driver batches applier world).2 := by
  induction batches generalizing applier world with
  | nil => exact initial
  | cons batch rest inductionHypothesis =>
    rw [applyAll_cons]
    exact inductionHypothesis _ _
      (apply_induction driver changed batch.1 batch.2 applier world initial)

/-- Any number of passes keeps the tunnel in step with what is on record. -/
theorem applyAll_tracked {driver : Driver World} {routed : World → Network → Prop}
    (holds : HoldsRoutes driver routed) (origin : Network → Prop)
    (batches : List (List TunnelPeer × List PublicKey)) (applier : Applier)
    (state : List Exchange × World) (tracked : Tracked routed origin applier.Relies state) :
    Tracked routed origin (applyAll driver.logged batches applier state).1.Relies
      (applyAll driver.logged batches applier state).2 :=
  @applyAll_induction _ driver.logged
    (fun applier state => Tracked routed origin applier.Relies state)
    (fun _ _ change before => before.carryOut holds change) batches applier state tracked

/-- After any number of passes that started with nothing on record: every route on record is in
the tunnel; if the tunnel started without routes and no deletion failed, its routes are exactly
those on record; and no default route was added or deleted, nor was it tried. -/
theorem routes_tracked {driver : Driver World} {routed : World → Network → Prop}
    (holds : HoldsRoutes driver routed) (world : World)
    (batches : List (List TunnelPeer × List PublicKey)) :
    let after := applyAll driver.logged batches {} ([], world)
    applyAll driver batches {} world = (after.1, after.2.2) ∧
      (∀ key network, network ∈ after.1.routesOf key → routed after.2.2 network) ∧
      ((∀ network, ¬routed world network) →
        (∀ network, ⟨.deleteRoute network, false⟩ ∉ after.2.1) →
        ∀ network, routed after.2.2 network ↔ ∃ key, network ∈ after.1.routesOf key) ∧
      ∀ exchange ∈ after.2.1, ∀ network,
        exchange.request = .addRoute network ∨ exchange.request = .deleteRoute network →
          network.length ≠ 0 := by
  intro after
  have nothing : ∀ network, ¬Relies {} network := by
    rintro network ⟨key, listed⟩
    cases listed
  have tracked : Tracked routed (routed world) after.1.Relies after.2 := by
    refine applyAll_tracked holds (routed world) batches {} ([], world) ?_
    exact
      { present := fun network relies => absurd relies (nothing network)
        notDefault := fun network relies => absurd relies (nothing network)
        accounted := fun network there => Or.inl there
        spared := fun exchange member => by cases member }
  refine ⟨applyAll_logged driver batches {} ([], world), ?_, ?_, ?_⟩
  · exact fun key network listed => tracked.present network ⟨key, listed⟩
  · intro empty granted network
    constructor
    · intro there
      rcases tracked.accounted network there with first | failed | relies
      · exact absurd first (empty network)
      · exact absurd failed (granted network)
      · exact relies
    · exact tracked.present network
  · intro exchange member network asked
    have proper := tracked.spared exchange member network asked
    simpa [Network.isDefaultRoute] using proper

/-- Two peers share a route, the addition of the second peer's other route fails, and the first
peer is removed. The shared route stays, and the routes in the tunnel are those on record. -/
theorem shared_route_tracked :
    let peer (last : UInt8) (allowed : List Network) : TunnelPeer :=
      ⟨Sample.key last, Sample.home.reflexive, allowed, none, .reflexive⟩
    let batches :=
      [([peer 1 [Sample.network 7, Sample.network 8], peer 2 [Sample.network 7, Sample.network 9]],
          []),
        ([], [Sample.key 1])]
    let tunnel : ScriptedTunnel := { script := List.replicate 8 false ++ [true] }
    let after := applyAll ScriptedTunnel.driver batches {} tunnel
    after.2.routes = [Sample.network 7] ∧
      ∀ network, ScriptedTunnel.Routed after.2 network ↔
        ∃ key, network ∈ after.1.routesOf key := by
  intro peer batches tunnel after
  obtain ⟨same, _, exactly, _⟩ := routes_tracked ScriptedTunnel.holdsRoutes tunnel batches
  have vacant : ∀ network, ¬ScriptedTunnel.Routed tunnel network := fun network =>
    List.not_mem_nil
  have failures : ∀ exchange ∈ (applyAll ScriptedTunnel.driver.logged batches {} ([], tunnel)).2.1,
      exchange.granted = false → exchange.request = .addRoute (Sample.network 9) := by
    decide +kernel
  have granted : ∀ network, ⟨.deleteRoute network, false⟩ ∉
      (applyAll ScriptedTunnel.driver.logged batches {} ([], tunnel)).2.1 := by
    intro network member
    cases failures _ member rfl
  refine ⟨by decide +kernel, ?_⟩
  simpa only [after, same] using exactly vacant granted

end Applier

end MeshNode
