import MeshNode.Proofs.Convergence
import MeshNode.Proofs.RefusedChanges

/-!
# Routes after the tunnel has healed

Once a tick has all its requests granted, its pass was clean: nothing is dirty, and
every key relies on the routes of what is applied. Route tracking then says what is in
the tunnel. Every route of an applied peer is there, whatever had failed before; and
a route that is there besides could not be deleted when it was given up.

Such a route is not given up a second time. A failed deletion is dropped from the
record like one that succeeded, and leaves no key dirty, so that no later tick asks for
the deletion again: the route of a removed peer stays, even where nothing fails any more.

The record of a run is the one that its logged self leaves. Records only grow at their
end, so that what a tick adds to the record of the run before it is the record of the
tick alone.
-/

namespace MeshNode

variable {World : Type} (driver : Driver World)

/-! ## Granted throughout -/

/-- Every exchange on record was granted. -/
def AllGranted (record : List Exchange) : Prop :=
  ∀ exchange ∈ record, exchange.granted = true

/-- Where everything was granted, no key is struck. -/
theorem AllGranted.refusesJust {record : List Exchange} (granted : AllGranted record) :
    RefusesJust (fun _ => false) record := by
  intro exchange member
  rw [granted exchange member]
  simp

/-! ## The record of a run -/

/-- Every logged driver follows itself from an earlier start of the record. -/
theorem Driver.follows_logged_prepend (earlier : List Exchange) :
    Follows driver.logged driver.logged fun state => (earlier ++ state.1, state.2) :=
  fun _ _ => Prod.ext rfl (Prod.ext (List.append_assoc _ _ _) rfl)

theorem Follows.step {A B : Type} {fine : Driver A} {coarse : Driver B} {view : A → B}
    (follows : Follows fine coarse view) (node : Node A) (event : NodeEvent) :
    (node.through view).step coarse event = (node.step fine event).through view := by
  cases event with
  | tick fetched => exact congrArg Prod.snd (follows.tick fetched node)
  | awaitSession => rfl
  | resume => rfl
  | recordHealth results => rfl
  | updateLocal change => rfl

theorem Follows.run {A B : Type} {fine : Driver A} {coarse : Driver B} {view : A → B}
    (follows : Follows fine coarse view) (events : List NodeEvent) (node : Node A) :
    (node.through view).run coarse events = (node.run fine events).through view := by
  induction events generalizing node with
  | nil => rfl
  | cons event rest inductionHypothesis =>
    rw [Node.run, List.foldl_cons, follows.step]
    exact inductionHypothesis (node.step fine event)

namespace Node

open Reconciler

/-- The exchanges of a run, in order. -/
def runExchanges (events : List NodeEvent) (node : Node World) : List Exchange :=
  (node.recording.run driver.logged events).world.1

/-- Recording does not change what a run leaves. -/
theorem run_recording (events : List NodeEvent) (node : Node World) :
    run driver events node = (node.recording.run driver.logged events).through Prod.snd :=
  driver.follows_logged.run events node.recording

/-- A tick at the end of a run adds its own exchanges to those of the run. -/
theorem runExchanges_tick (events : List NodeEvent)
    (fetched : Except ListingError (List PeerRecord)) (node : Node World) :
    runExchanges driver (events ++ [.tick fetched]) node =
      runExchanges driver events node ++ (run driver events node).tickExchanges driver fetched := by
  -- The logged run stops where recording would start anew, but for the record so far.
  have again : node.recording.run driver.logged events =
      (run driver events node).recording.through
        fun state => (runExchanges driver events node ++ state.1, state.2) := by
    rw [run_recording driver events node]
    simp only [recording, through, runExchanges, List.append_nil]
  have ticked := (driver.follows_logged_prepend (runExchanges driver events node)).step
    (run driver events node).recording (.tick fetched)
  rw [runExchanges, run, List.foldl_append]
  change ((node.recording.run driver.logged events).step driver.logged (.tick fetched)).world.1 = _
  rw [again, ticked]
  rfl

/-! ## A tick whose requests are granted -/

section Granted

variable (node : Node World)

theorem fullPass_clean_of_granted (peers : List PeerRecord)
    (granted : AllGranted (node.passExchanges driver peers)) :
    (node.fullPass driver peers).1.apply.isClean = true := by
  obtain ⟨failures, _⟩ :=
    fullPass_report_of_refused driver peers node (fun _ => false) granted.refusesJust
  rw [List.filter_false, List.map_eq_nil_iff] at failures
  exact List.isEmpty_iff.mpr failures

/-- A tick with a listing whose requests are all granted, if it makes any, leaves no key dirty. -/
theorem dirty_of_granted (listing : List PeerRecord)
    (granted : AllGranted (node.tickExchanges driver (.ok listing))) :
    (node.tick driver (.ok listing)).2.reconciler.dirty = [] := by
  rw [tickExchanges_eq] at granted
  cases must : node.reconciler.mustRun node.localNode node.cache
      (prepare node.localNode listing) with
  | false =>
    rw [(tick_of_idle driver node listing must).1]
    exact ((mustRun_eq_false_iff _ _ _ _).mp must).2.2.1
  | true =>
    rw [if_pos must] at granted
    have clean := fullPass_clean_of_granted driver node _ granted
    have passed : (node.tick driver (.ok listing)).2 =
        (node.fullPass driver (prepare node.localNode listing)).2 :=
      congrArg Prod.snd (if_pos must)
    rw [passed]
    exact (fullPass_clean driver _ node clean).1

end Granted

/-! ## What a run leaves in the tunnel -/

section Routes

variable {driver} {routed : World → Network → Prop}

/-- A node over its logged driver whose tunnel is in step with the record of routes. -/
def InStep (routed : World → Network → Prop) (origin : Network → Prop)
    (node : Node (List Exchange × World)) : Prop :=
  Tracked routed origin node.reconciler.applier.Relies node.world

/-- Every run keeps the tunnel in step with the record of routes. -/
theorem run_inStep (holds : HoldsRoutes driver routed) (origin : Network → Prop)
    (events : List NodeEvent) (node : Node (List Exchange × World))
    (initial : node.InStep routed origin) :
    (node.run driver.logged events).InStep routed origin := by
  refine run_induction driver.logged events ?passed ?awaited ?resumed ?recorded ?updated node
    initial
  case passed =>
    intro listing node tracked
    rw [InStep, applier_fullPass]
    exact Tracked.apply holds _ _ tracked
  case awaited => exact fun node tracked => tracked
  case resumed => exact fun node tracked => tracked
  case recorded => exact fun results node tracked => tracked
  case updated => exact fun change _ node tracked => tracked

/-- Before its first event a node relies on nothing, and its tunnel is as it was found. -/
theorem recording_inStep (routed : World → Network → Prop) (localNode : LocalNode)
    (cache : DeviceCache) (world : World) :
    (start localNode cache {} world).recording.InStep routed (routed world) where
  present network relies := by
    obtain ⟨key, listed⟩ := relies
    cases listed
  notDefault network relies := by
    obtain ⟨key, listed⟩ := relies
    cases listed
  accounted network there := Or.inl there
  spared exchange member := by cases member

end Routes

/-- After every run over a tunnel that started without routes, and whatever failed in it, a tick
with a listing whose requests are all granted leaves in the tunnel every route of what is applied;
and a route that is there besides is one whose deletion failed in the run. -/
theorem routes_settle {driver : Driver World} {routed : World → Network → Prop}
    (holds : HoldsRoutes driver routed) (localNode : LocalNode) (cache : DeviceCache)
    (world : World) (vacant : ∀ network, ¬routed world network) (events : List NodeEvent)
    (listing : List PeerRecord) :
    let origin := start localNode cache {} world
    let node := run driver events origin
    let after := (node.tick driver (.ok listing)).2
    let applied (network : Network) : Prop :=
      ∃ key peer, after.reconciler.applied.get? key = some peer ∧ network ∈ peer.allowed ∧
        network.length ≠ 0
    (∀ exchange ∈ node.tickExchanges driver (.ok listing), exchange.granted = true) →
      (∀ network, applied network → routed after.world network) ∧
        ∀ network, routed after.world network →
          applied network ∨ ⟨.deleteRoute network, false⟩ ∈ runExchanges driver events origin := by
  intro origin node after applied granted
  let whole := events ++ [NodeEvent.tick (.ok listing)]
  have reached : after = run driver whole origin := by
    rw [run, List.foldl_append]
    rfl
  have recorded : after = (origin.recording.run driver.logged whole).through Prod.snd :=
    reached.trans (run_recording driver whole origin)
  have tracked := run_inStep holds (routed world) whole origin.recording
    (recording_inStep routed localNode cache world)
  have owns : after.OwnsRoutes {} := by
    rw [reached]
    exact run_ownsRoutes driver localNode cache {} world whole
  have relied : ∀ network,
      (origin.recording.run driver.logged whole).reconciler.applier.Relies network ↔
        applied network := by
    intro network
    have same : (origin.recording.run driver.logged whole).reconciler.applier =
        after.reconciler.applier := by
      rw [recorded]
      rfl
    have settled := relies_iff_applied owns (dirty_of_granted driver node listing granted) network
    simp only [TunnelPeer.mem_routes_iff, Network.isDefaultRoute, beq_eq_false_iff_ne] at settled
    rw [same]
    exact settled
  have last : (origin.recording.run driver.logged whole).world.1 =
      runExchanges driver events origin ++ node.tickExchanges driver (.ok listing) :=
    runExchanges_tick driver events (.ok listing) origin
  rw [recorded]
  constructor
  · intro network held
    exact tracked.present network ((relied network).mpr held)
  · intro network there
    rcases tracked.accounted network there with first | failed | relies
    · exact absurd first (vacant network)
    · rw [last] at failed
      rcases List.mem_append.mp failed with earlier | now
      · exact Or.inr earlier
      · cases granted _ now
    · exact Or.inl ((relied network).mp relies)

/-- A device gives up its second route, whose deletion fails, and then asks for a third, whose
addition fails at first. Once it is added, the first and the third route are there; the second is
there only because its deletion failed. -/
theorem routes_settle_but_for_one :
    let listing (advertised : List Network) : List PeerRecord :=
      [{ Sample.device "2.2.2.2:51820" with advertised }]
    let events := [NodeEvent.tick (.ok (listing [Sample.network 7])), .tick (.ok (listing [])),
      .tick (.ok (listing [Sample.network 9]))]
    let tunnel : ScriptedTunnel :=
      { script := List.replicate 7 false ++ [true] ++ List.replicate 3 false ++ [true] }
    let origin := start Sample.home {} {} tunnel
    let node := run ScriptedTunnel.driver events origin
    let after := (node.tick ScriptedTunnel.driver (.ok (listing [Sample.network 9]))).2
    Sample.key 1 ∈ node.reconciler.dirty ∧
      ScriptedTunnel.Routed after.world (Sample.network 1) ∧
      ScriptedTunnel.Routed after.world (Sample.network 9) ∧
      ScriptedTunnel.Routed after.world (Sample.network 7) ∧
      ⟨.deleteRoute (Sample.network 7), false⟩ ∈
        runExchanges ScriptedTunnel.driver events origin := by
  intro listing events tunnel
  have vacant : ∀ network, ¬ScriptedTunnel.Routed tunnel network := fun network =>
    List.not_mem_nil
  obtain ⟨present, accounted⟩ := routes_settle ScriptedTunnel.holdsRoutes Sample.home {} tunnel
    vacant events (listing [Sample.network 9]) (by decide +kernel)
  let peer : TunnelPeer := ⟨Sample.key 1, ⟨.v4 0x02020202, 51820, 0⟩,
    [Sample.network 1, Sample.network 9], none, .reflexive⟩
  have leaked := accounted (Sample.network 7) (by unfold ScriptedTunnel.Routed; decide +kernel)
  refine ⟨by decide +kernel, ?first, ?third, ?second, leaked.resolve_left ?unwanted⟩
  case first => exact present _ ⟨Sample.key 1, peer, by decide +kernel, by decide, by decide⟩
  case third => exact present _ ⟨Sample.key 1, peer, by decide +kernel, by decide, by decide⟩
  case second =>
    unfold ScriptedTunnel.Routed
    decide +kernel
  case unwanted =>
    rintro ⟨key, other, found, listed, _⟩
    have entry := (Table.get?_eq_some_iff _ key other).mp found
    have among := (List.mem_flatMap (f := fun held : PublicKey × TunnelPeer =>
      held.2.allowed)).mpr ⟨(key, other), entry, listed⟩
    exact absurd among (by decide +kernel)

/-- Ticks that find nothing to do change nothing, however many. -/
theorem run_of_idle (node : Node World) (listing : List PeerRecord)
    (idle : node.reconciler.mustRun node.localNode node.cache
      (prepare node.localNode listing) = false) (count : Nat) :
    run driver (List.replicate count (.tick (.ok listing))) node = node := by
  induction count with
  | zero => rfl
  | succ count inductionHypothesis =>
    have first : node.step driver (.tick (.ok listing)) = node :=
      congrArg Prod.snd (tick_of_idle driver node listing idle).1
    rw [List.replicate_succ, run, List.foldl_cons, first]
    exact inductionHypothesis

/-- The only device is removed and the deletion of its route fails. From then on every request
would be granted, but no number of ticks with the same listing makes any: the route stays, and
nothing is applied that has it. -/
theorem leaked_route_stays :
    let node := run ScriptedTunnel.driver
      [.tick (.ok [Sample.device "2.2.2.2:51820"]), .tick (.ok [])]
      (start Sample.home {} {} { script := List.replicate 4 false ++ [true] })
    node.world.script = [] ∧
      ∀ count,
        let after := run ScriptedTunnel.driver (List.replicate count (.tick (.ok []))) node
        ¬∀ network, ScriptedTunnel.Routed after.world network ↔
          ∃ key peer, after.reconciler.applied.get? key = some peer ∧ network ∈ peer.allowed ∧
            network.length ≠ 0 := by
  intro node
  refine ⟨by decide +kernel, ?_⟩
  intro count after exactly
  have idle : node.reconciler.mustRun node.localNode node.cache (prepare node.localNode []) =
      false := by decide +kernel
  have still : after = node := run_of_idle ScriptedTunnel.driver node [] idle count
  have routed : ScriptedTunnel.Routed after.world (Sample.network 1) := by
    rw [still]
    unfold ScriptedTunnel.Routed
    decide +kernel
  have nothing : after.reconciler.applied.entries = [] := by
    rw [still]
    decide +kernel
  obtain ⟨key, peer, applied, _⟩ := (exactly (Sample.network 1)).mp routed
  have entry := (Table.get?_eq_some_iff _ key peer).mp applied
  rw [nothing] at entry
  cases entry

end Node

end MeshNode
