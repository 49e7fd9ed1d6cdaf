import MeshNode.Proofs.Runs

/-!
# The requests of a tick

Over a logged driver a tick leaves a record of its exchanges with the tunnel. The
record is faithful: forgetting it gives the tick that the driver makes without it.
More generally a driver may follow another through a view of the other's states,
and then everything above the driver follows as well.

Of the requests those that change peers are exactly the changes of the pass, in
order and each once, whatever fails. A tick that makes no full pass requests
nothing.
-/

namespace MeshNode

/-! ## Following a driver -/

/-- One driver answers through a view as another answers, and moves as the other moves. -/
def Follows {A B : Type} (fine : Driver A) (coarse : Driver B) (view : A → B) : Prop :=
  ∀ request state, coarse.answer request (view state) =
    ((fine.answer request state).1, view (fine.answer request state).2)

/-- Every driver follows its logged self, forgetting the record. -/
theorem Driver.follows_logged {World : Type} (driver : Driver World) :
    Follows driver.logged driver Prod.snd := fun _ _ => rfl

/-- A pass seen through a view of the tunnel. -/
def Applier.Pass.through {A B : Type} (view : A → B) (pass : Applier.Pass A) : Applier.Pass B :=
  ⟨pass.report, pass.applier, view pass.world⟩

/-- A node seen through a view of the tunnel. -/
def Node.through {A B : Type} (view : A → B) (node : Node A) : Node B :=
  ⟨node.localNode, node.cache, node.reconciler, view node.world⟩

namespace Follows

open Applier

variable {A B : Type} {fine : Driver A} {coarse : Driver B} {view : A → B}

theorem ensureRoute (follows : Follows fine coarse view) (network : Network) (state : A) :
    coarse.ensureRoute network (view state) =
      ((fine.ensureRoute network state).1, view (fine.ensureRoute network state).2) := by
  simp only [Driver.ensureRoute, follows (.routeExists network) state]
  obtain ⟨answer, next⟩ := fine.answer (.routeExists network) state
  cases answer with
  | error error => rfl
  | ok found =>
    cases found with
    | true => rfl
    | false => exact follows (.addRoute network) next

theorem deleteRoutes (follows : Follows fine coarse view) (networks : List Network) (state : A) :
    coarse.deleteRoutes networks (view state) = view (fine.deleteRoutes networks state) := by
  simp only [Driver.deleteRoutes]
  induction networks generalizing state with
  | nil => rfl
  | cons network rest inductionHypothesis =>
    rw [List.foldl_cons, List.foldl_cons, follows, inductionHypothesis]

theorem ensureRoutes (follows : Follows fine coarse view) (networks : List Network)
    (walk : RouteWalk) (state : A) :
    Applier.ensureRoutes coarse walk networks (view state) =
      ((Applier.ensureRoutes fine walk networks state).1,
        view (Applier.ensureRoutes fine walk networks state).2) := by
  induction networks generalizing walk state with
  | nil => rfl
  | cons network rest inductionHypothesis =>
    simp only [Applier.ensureRoutes, follows.ensureRoute]
    split
    · exact inductionHypothesis _ _
    · obtain ⟨answer, next⟩ := fine.ensureRoute network state
      cases answer with
      | error error => rfl
      | ok done => exact inductionHypothesis _ _

theorem applyPeer (follows : Follows fine coarse view) (peer : TunnelPeer) (applier : Applier)
    (state : A) :
    Applier.applyPeer coarse peer applier (view state) =
      ((Applier.applyPeer fine peer applier state).1,
        (Applier.applyPeer fine peer applier state).2.1,
        view (Applier.applyPeer fine peer applier state).2.2) := by
  simp only [Applier.applyPeer, follows (.configure peer) state]
  obtain ⟨answer, next⟩ := fine.answer (.configure peer) state
  cases answer with
  | error error => rfl
  | ok done =>
    simp only [follows.ensureRoutes]
    cases (Applier.ensureRoutes fine {} peer.allowed next).1.failure with
    | some error => rfl
    | none => simp only [follows.deleteRoutes]

theorem removePeer (follows : Follows fine coarse view) (key : PublicKey) (applier : Applier)
    (state : A) :
    Applier.removePeer coarse key applier (view state) =
      ((Applier.removePeer fine key applier state).1,
        (Applier.removePeer fine key applier state).2.1,
        view (Applier.removePeer fine key applier state).2.2) := by
  simp only [Applier.removePeer, follows (.remove key) state]
  obtain ⟨answer, next⟩ := fine.answer (.remove key) state
  cases answer with
  | error error => rfl
  | ok done => simp only [follows.deleteRoutes]

theorem change (follows : Follows fine coarse view) (pass : Pass A) (change : Change) :
    (pass.through view).change coarse change = (pass.change fine change).through view := by
  cases change with
  | configure peer =>
    simp only [Pass.change, Pass.configure, Pass.through, follows.applyPeer]
    obtain ⟨answer, applier, next⟩ := Applier.applyPeer fine peer pass.applier pass.world
    cases answer <;> rfl
  | remove key =>
    simp only [Pass.change, Pass.remove, Pass.through, follows.removePeer]
    obtain ⟨answer, applier, next⟩ := Applier.removePeer fine key pass.applier pass.world
    cases answer <;> rfl

theorem foldl_change (follows : Follows fine coarse view) (changes : List Change)
    (pass : Pass A) :
    changes.foldl (Pass.change coarse) (pass.through view) =
      (changes.foldl (Pass.change fine) pass).through view := by
  induction changes generalizing pass with
  | nil => rfl
  | cons first rest inductionHypothesis =>
    rw [List.foldl_cons, List.foldl_cons, follows.change, inductionHypothesis]

/-- A pass follows. -/
theorem passOver (follows : Follows fine coarse view) (peers : List PeerRecord) (node : Node A) :
    (node.through view).passOver coarse peers = (node.passOver fine peers).through view := by
  rw [Node.passOver_eq_foldl, Node.passOver_eq_foldl, ← follows.foldl_change]
  rfl

/-- A full pass follows. -/
theorem fullPass (follows : Follows fine coarse view) (peers : List PeerRecord)
    (node : Node A) :
    (node.through view).fullPass coarse peers =
      ((node.fullPass fine peers).1, (node.fullPass fine peers).2.through view) := by
  have passed := follows.passOver peers node
  simp only [Node.passOver, Node.planFor, Node.through, Pass.through] at passed
  simp only [Node.fullPass, Node.through, passed]

/-- A tick follows. -/
theorem tick (follows : Follows fine coarse view)
    (fetched : Except ListingError (List PeerRecord)) (node : Node A) :
    (node.through view).tick coarse fetched =
      ((node.tick fine fetched).1, (node.tick fine fetched).2.through view) := by
  match fetched with
  | .error (.transient reason) => rfl
  | .error (.unauthorized reason) => rfl
  | .ok listing =>
    simp only [Node.tick, follows.fullPass]
    cases must : node.reconciler.mustRun node.localNode node.cache
        (Reconciler.prepare node.localNode listing) with
    | false => simp [Node.through, must]
    | true => simp [Node.through, must]

end Follows

/-! ## Changes among requests -/

namespace Request

/-- Whether a request changes some peer. -/
def changesPeer : Request → Bool
  | .configure _ => true
  | .remove _ => true
  | .routeExists _ => false
  | .addRoute _ => false
  | .deleteRoute _ => false

/-- Whether a request changes the peer of a key. -/
def changes (key : PublicKey) : Request → Bool
  | .configure peer => peer.publicKey = key
  | .remove removed => removed = key
  | .routeExists _ => false
  | .addRoute _ => false
  | .deleteRoute _ => false

end Request

/-- The requests of a record that change peers, in order. -/
def peerRequests (record : List Exchange) : List Request :=
  (record.map Exchange.request).filter Request.changesPeer

/-- What changes the peer of one key changes a peer. -/
theorem filter_changes_peerRequests (key : PublicKey) (record : List Exchange) :
    (peerRequests record).filter (Request.changes key) =
      (record.map Exchange.request).filter (Request.changes key) := by
  rw [peerRequests, List.filter_filter]
  apply List.filter_congr
  intro request _
  cases request <;> simp [Request.changes, Request.changesPeer]

namespace Change

theorem changesPeer_request (change : Change) : change.request.changesPeer = true := by
  cases change <;> rfl

theorem changes_request (key : PublicKey) (change : Change) :
    change.request.changes key = decide (change.key = key) := by
  cases change <;> rfl

/-- Where no key is changed twice, one request is made for the key of a change. -/
theorem requests_of_mem (changes : List Change) (apart : (changes.map key).Nodup)
    (change : Change) (member : change ∈ changes) :
    (changes.map request).filter (Request.changes change.key) = [change.request] := by
  induction changes with
  | nil => cases member
  | cons first rest inductionHypothesis =>
    rw [List.map_cons, List.nodup_cons] at apart
    have elsewhere : ∀ other ∈ rest, other.key ≠ first.key := fun other otherMember same =>
      apart.1 (List.mem_map.mpr ⟨other, otherMember, same⟩)
    rw [List.map_cons, List.filter_cons, changes_request]
    rcases List.mem_cons.mp member with rfl | later
    · have noneLater : (rest.map request).filter (Request.changes change.key) = [] := by
        rw [List.filter_eq_nil_iff]
        intro made madeMember
        obtain ⟨other, otherMember, rfl⟩ := List.mem_map.mp madeMember
        simp [changes_request, elsewhere other otherMember]
      simp [noneLater]
    · have different : first.key ≠ change.key := (elsewhere change later).symm
      simp [different, inductionHypothesis apart.2 later]

end Change

namespace Applier

variable {World : Type} (driver : Driver World)

theorem logged_routeBlind : RouteBlind driver.logged fun state => peerRequests state.1 := by
  constructor
  all_goals
    intro network state
    simp [Driver.logged, peerRequests, Request.changesPeer]

/-- A pass makes the requests of its changes, in order and each once, whatever fails. -/
theorem peerRequests_foldl (changes : List Change) (pass : Pass (List Exchange × World)) :
    peerRequests (changes.foldl (Pass.change driver.logged) pass).world.1 =
      peerRequests pass.world.1 ++ changes.map Change.request := by
  induction changes generalizing pass with
  | nil => simp
  | cons change rest inductionHypothesis =>
    have first : peerRequests (pass.change driver.logged change).world.1 =
        peerRequests pass.world.1 ++ [change.request] := by
      rw [change_world, (logged_routeBlind driver).carryOut]
      simp [Driver.logged, peerRequests, Change.changesPeer_request]
    rw [List.foldl_cons, inductionHypothesis, first, List.map_cons, List.append_assoc]
    rfl

end Applier

/-! ## Ticks -/

namespace Node

open Reconciler

variable {World : Type} (driver : Driver World)

/-- The node over its logged driver, with nothing on record. -/
def recording (node : Node World) : Node (List Exchange × World) :=
  ⟨node.localNode, node.cache, node.reconciler, ([], node.world)⟩

/-- The exchanges of a full pass over prepared peers, in order. -/
def passExchanges (peers : List PeerRecord) (node : Node World) : List Exchange :=
  (node.recording.fullPass driver.logged peers).2.world.1

/-- The exchanges of a tick, in order. -/
def tickExchanges (fetched : Except ListingError (List PeerRecord)) (node : Node World) :
    List Exchange :=
  (node.recording.tick driver.logged fetched).2.world.1

/-- Recording changes neither what a tick answers nor what it leaves. -/
theorem tick_recording (fetched : Except ListingError (List PeerRecord)) (node : Node World) :
    node.tick driver fetched =
      ((node.recording.tick driver.logged fetched).1,
        (node.recording.tick driver.logged fetched).2.through Prod.snd) :=
  driver.follows_logged.tick fetched node.recording

/-- A full pass makes the requests of its changes, in order and each once. -/
theorem peerRequests_passExchanges (peers : List PeerRecord) (node : Node World) :
    peerRequests (node.passExchanges driver peers) =
      (node.changesFor peers).map Change.request := by
  have record : node.passExchanges driver peers =
      (node.recording.passOver driver.logged peers).world.1 := rfl
  rw [record, passOver_eq_foldl, Applier.peerRequests_foldl]
  rfl

/-- A tick with a listing makes the exchanges of the full pass, or none. -/
theorem tickExchanges_eq (listing : List PeerRecord) (node : Node World) :
    node.tickExchanges driver (.ok listing) =
      if node.reconciler.mustRun node.localNode node.cache (prepare node.localNode listing) then
        node.passExchanges driver (prepare node.localNode listing)
      else [] := by
  cases must : node.reconciler.mustRun node.localNode node.cache
      (prepare node.localNode listing) with
  | false => simp [tickExchanges, tick, recording, must]
  | true => simp [tickExchanges, passExchanges, tick, recording, must]

end Node

end MeshNode
