import MeshNode.Applier

/-!
# A pass as a list of changes

A pass configures some peers and then removes some keys. Both are changes of one
key: a change makes one request for its key, and whatever else it asks of the
tunnel is about routes. Written as a fold over its changes, a pass is understood
through what a single change does: where no key is changed twice, each key is left
as its own change left it.

A view of the tunnel is blind to routes where no request about a route alters
it. Through such a view a change is its one request, and a pass is the list of
those requests, in order, whatever fails.
-/

namespace MeshNode

/-- One change that a pass makes to the tunnel. -/
inductive Change where
  | configure (peer : TunnelPeer)
  | remove (key : PublicKey)
  deriving DecidableEq, Repr

namespace Change

/-- The key that a change is about. -/
def key : Change → PublicKey
  | .configure peer => peer.publicKey
  | .remove key => key

/-- What the tunnel holds for the key once the change has succeeded. -/
def wanted : Change → Option TunnelPeer
  | .configure peer => some peer
  | .remove _ => none

/-- The one request that a change makes for its key. -/
def request : Change → Request
  | .configure peer => .configure peer
  | .remove key => .remove key

/-- The changes of a pass, in their order. -/
def ofPass (added : List TunnelPeer) (removed : List PublicKey) : List Change :=
  added.map .configure ++ removed.map .remove

theorem keys_ofPass (added : List TunnelPeer) (removed : List PublicKey) :
    (ofPass added removed).map key = added.map TunnelPeer.publicKey ++ removed := by
  simp [ofPass, Function.comp_def, key]

section Fold

variable {State α : Type} {step : State → Change → State} {view : State → PublicKey → α}

/-- A step moves a view at the key of its change alone. -/
def MovesOwnKey (step : State → Change → State) (view : State → PublicKey → α) : Prop :=
  ∀ state change key, key ≠ change.key → view (step state change) key = view state key

/-- A key that no change is about is left as it was. -/
theorem MovesOwnKey.foldl_other (moves : MovesOwnKey step view) (changes : List Change)
    (state : State) (key : PublicKey) (other : key ∉ changes.map Change.key) :
    view (changes.foldl step state) key = view state key := by
  induction changes generalizing state with
  | nil => rfl
  | cons change rest inductionHypothesis =>
    rw [List.map_cons, List.mem_cons, not_or] at other
    rw [List.foldl_cons, inductionHypothesis _ other.2, moves _ _ _ other.1]

/-- Where no key is changed twice, the step of a change finds its key as it was at first, and the
key is left as this step left it. -/
theorem MovesOwnKey.foldl_from (moves : MovesOwnKey step view) (changes : List Change)
    (state : State) (apart : (changes.map Change.key).Nodup) (change : Change)
    (member : change ∈ changes) :
    ∃ before, view before change.key = view state change.key ∧
      view (changes.foldl step state) change.key = view (step before change) change.key := by
  induction changes generalizing state with
  | nil => cases member
  | cons first rest inductionHypothesis =>
    rw [List.map_cons, List.nodup_cons] at apart
    rcases List.mem_cons.mp member with rfl | later
    · exact ⟨state, rfl, moves.foldl_other rest (step state change) change.key apart.1⟩
    · have different : change.key ≠ first.key := fun same =>
        apart.1 (same ▸ List.mem_map.mpr ⟨change, later, rfl⟩)
      obtain ⟨before, found, left⟩ := inductionHypothesis (step state first) apart.2 later
      exact ⟨before, found.trans (moves state first change.key different), left⟩

/-- Where no key is changed twice, the key of a change is left as its own step left it. -/
theorem MovesOwnKey.foldl_self (moves : MovesOwnKey step view) (changes : List Change)
    (state : State) (apart : (changes.map Change.key).Nodup) (change : Change)
    (member : change ∈ changes) :
    ∃ before, view (changes.foldl step state) change.key =
      view (step before change) change.key := by
  obtain ⟨before, _, left⟩ := moves.foldl_from changes state apart change member
  exact ⟨before, left⟩

end Fold

end Change

namespace Applier

variable {World : Type} (driver : Driver World)

/-- Why a result is none, if it is none. -/
def failure? {α : Type} : Except TunnelError α → Option TunnelError
  | .ok _ => none
  | .error error => some error

/-- Carry out one change. The answer is the failure, if there was one. -/
def carryOut (applier : Applier) (world : World) :
    Change → Option TunnelError × Applier × World
  | .configure peer =>
    let (answer, applier, world) := applyPeer driver peer applier world
    (failure? answer, applier, world)
  | .remove key =>
    let (answer, applier, world) := removePeer driver key applier world
    (failure? answer, applier, world)

/-- The next change of a pass. -/
def Pass.change (pass : Pass World) : Change → Pass World
  | .configure peer => pass.configure driver peer
  | .remove key => pass.remove driver key

/-- What making sure of each route keeps, together with the routes that are owned by then, the walk
over a list of routes keeps wherever it stops. -/
theorem ensureRoutes_induction {invariant : List Network → World → Prop}
    (ensured : ∀ owned network world, network.isDefaultRoute = false → invariant owned world →
      invariant
        (if (driver.ensureRoute network world).1.isOk then owned ++ [network] else owned)
        (driver.ensureRoute network world).2)
    (networks : List Network) (walk : RouteWalk) (world : World)
    (initial : invariant walk.owned world) :
    invariant (ensureRoutes driver walk networks world).1.owned
      (ensureRoutes driver walk networks world).2 := by
  induction networks generalizing walk world with
  | nil => exact initial
  | cons network rest inductionHypothesis =>
    unfold ensureRoutes
    split
    · exact inductionHypothesis _ _ initial
    · rename_i proper
      have next := ensured walk.owned network world (Bool.eq_false_iff.mpr proper) initial
      split
      · rename_i after asked
        rw [asked] at next
        exact inductionHypothesis _ _ next
      · rename_i error after asked
        rw [asked] at next
        exact next

/-- A pass is the fold of its changes. -/
theorem apply_eq_foldl (added : List TunnelPeer) (removed : List PublicKey) (applier : Applier)
    (world : World) :
    apply driver added removed applier world =
      (Change.ofPass added removed).foldl (Pass.change driver) ⟨{}, applier, world⟩ := by
  simp only [apply, Change.ofPass, List.foldl_append, List.foldl_map, Pass.change]

section Step

variable (pass : Pass World) (change : Change)

/-- A change leaves the memory that carrying it out leaves. -/
@[simp] theorem change_applier :
    (pass.change driver change).applier =
      (carryOut driver pass.applier pass.world change).2.1 := by
  cases change with
  | configure peer =>
    simp only [Pass.change, Pass.configure, carryOut]
    split <;> simp_all
  | remove key =>
    simp only [Pass.change, Pass.remove, carryOut]
    split <;> simp_all

/-- A change leaves the tunnel that carrying it out leaves. -/
@[simp] theorem change_world :
    (pass.change driver change).world = (carryOut driver pass.applier pass.world change).2.2 := by
  cases change with
  | configure peer =>
    simp only [Pass.change, Pass.configure, carryOut]
    split <;> simp_all
  | remove key =>
    simp only [Pass.change, Pass.remove, carryOut]
    split <;> simp_all

end Step

/-- What every change keeps, a pass keeps. -/
theorem apply_induction {invariant : Applier → World → Prop}
    (changed : ∀ applier world change, invariant applier world →
      invariant (carryOut driver applier world change).2.1
        (carryOut driver applier world change).2.2)
    (added : List TunnelPeer) (removed : List PublicKey) (applier : Applier) (world : World)
    (initial : invariant applier world) :
    invariant (apply driver added removed applier world).applier
      (apply driver added removed applier world).world := by
  rw [apply_eq_foldl]
  have before : invariant (Pass.mk {} applier world).applier (Pass.mk {} applier world).world :=
    initial
  generalize Pass.mk {} applier world = pass at before
  induction Change.ofPass added removed generalizing pass with
  | nil => exact before
  | cons change rest inductionHypothesis =>
    rw [List.foldl_cons]
    apply inductionHypothesis
    rw [change_applier, change_world]
    exact changed pass.applier pass.world change before

section Report

variable (pass : Pass World) (change : Change)

/-- A change adds its own failure to the report, and no other. -/
theorem change_failures :
    (pass.change driver change).report.failures =
      pass.report.failures ++
        ((carryOut driver pass.applier pass.world change).1.map fun error =>
          (change.key, error)).toList := by
  cases change with
  | configure peer =>
    simp only [Pass.change, Pass.configure, carryOut]
    split <;> simp_all [failure?, Change.key]
  | remove key =>
    simp only [Pass.change, Pass.remove, carryOut]
    split <;> simp_all [failure?, Change.key]

/-- After a change its own key has failed if it had failed before or the change failed; every
other key stands as it stood. -/
theorem change_failed (key : PublicKey) :
    (pass.change driver change).report.failed key =
      (pass.report.failed key ||
        (decide (change.key = key) &&
          (carryOut driver pass.applier pass.world change).1.isSome)) := by
  simp only [ApplyReport.failed, change_failures, List.any_append]
  cases (carryOut driver pass.applier pass.world change).1 <;> simp [Bool.beq_eq_decide_eq]

end Report

/-- A change moves only what is reported of its own key. -/
theorem failed_movesOwnKey :
    Change.MovesOwnKey (Pass.change driver) fun pass key => pass.report.failed key := by
  intro pass change key other
  simp [change_failed, Ne.symm other]

end Applier

/-! ## Views that are blind to routes -/

/-- No request about a route alters what the view shows. -/
structure RouteBlind {World α : Type} (driver : Driver World) (view : World → α) : Prop where
  looked : ∀ network world, view (driver.answer (.routeExists network) world).2 = view world
  added : ∀ network world, view (driver.answer (.addRoute network) world).2 = view world
  deleted : ∀ network world, view (driver.answer (.deleteRoute network) world).2 = view world

namespace RouteBlind

variable {World α : Type} {driver : Driver World} {view : World → α}

/-- Making sure of one route is not seen. -/
theorem ensureRoute (blind : RouteBlind driver view) (network : Network) (world : World) :
    view (driver.ensureRoute network world).2 = view world := by
  have looked := blind.looked network world
  unfold Driver.ensureRoute
  split
  · simp_all
  · simp_all
  · rename_i asked
    rw [asked] at looked
    rw [blind.added, looked]

/-- Deleting routes is not seen. -/
theorem deleteRoutes (blind : RouteBlind driver view) (networks : List Network) (world : World) :
    view (driver.deleteRoutes networks world) = view world := by
  unfold Driver.deleteRoutes
  induction networks generalizing world with
  | nil => rfl
  | cons network rest inductionHypothesis =>
    rw [List.foldl_cons, inductionHypothesis, blind.deleted]

/-- Walking over routes is not seen. -/
theorem ensureRoutes (blind : RouteBlind driver view) (networks : List Network)
    (walk : Applier.RouteWalk) (world : World) :
    view (Applier.ensureRoutes driver walk networks world).2 = view world := by
  refine @Applier.ensureRoutes_induction _ driver (fun _ next => view next = view world) ?_
    networks walk world rfl
  intro owned network next _ same
  rw [blind.ensureRoute, same]

/-- Of a change only the request for its key is seen. -/
theorem carryOut (blind : RouteBlind driver view) (applier : Applier) (world : World)
    (change : Change) :
    view (Applier.carryOut driver applier world change).2.2 =
      view (driver.answer change.request world).2 := by
  cases change with
  | configure peer =>
    simp only [Applier.carryOut, Applier.applyPeer, Change.request]
    split
    · simp_all
    · rename_i world' asked
      have walked := blind.ensureRoutes peer.allowed {} world'
      split
      · simp_all
      · simp_all [blind.deleteRoutes]
  | remove key =>
    simp only [Applier.carryOut, Applier.removePeer, Change.request]
    split <;> simp_all [blind.deleteRoutes]

end RouteBlind

/-- A change that does not fail had its request granted. -/
theorem Applier.granted_of_carryOut {World : Type} (driver : Driver World) (applier : Applier)
    (world : World) (change : Change)
    (success : (carryOut driver applier world change).1 = none) :
    (driver.answer change.request world).1.isOk = true := by
  cases change with
  | configure peer =>
    simp only [carryOut, applyPeer] at success
    split at success
    · simp [failure?] at success
    · simp_all [Change.request, Except.isOk, Except.toBool]
  | remove key =>
    simp only [carryOut, removePeer] at success
    split at success
    · simp [failure?] at success
    · simp_all [Change.request, Except.isOk, Except.toBool]

end MeshNode
