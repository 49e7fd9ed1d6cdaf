import MeshNode.Proofs.Plans

/-!
# Runs of a node

What can happen to a node: a tick with any answer of the fetch, the stop and the
return of its session, probe results, and changes of the local node. A run is any
sequence of such events from a reconciler that has not run yet. The tunnel is an
arbitrary driver, so a run includes every pattern of failing requests.

A tick either leaves everything but the phase alone or makes a full pass, and so a
property of every reachable node is proved by showing that the full pass and the
four other events keep it.

The reconciler looks at the local node through its generation. Two local nodes of one
run pass for one where an update brings a generation back, and changes that leave the
counter to the update do so only after 2⁶⁴ of them.
-/

namespace MeshNode

/-- What can happen to a node. -/
inductive NodeEvent where
  | tick (fetched : Except ListingError (List PeerRecord))
  | awaitSession
  | resume
  | recordHealth (results : Table PublicKey Health)
  | updateLocal (change : LocalNode → LocalNode)

/-- The generation of a local node tells it apart from all of some others. -/
def LocalNode.ToldApart (others : List LocalNode) (node : LocalNode) : Prop :=
  ∀ other ∈ others, other.generation = node.generation → other = node

instance (others : List LocalNode) (node : LocalNode) : Decidable (node.ToldApart others) :=
  inferInstanceAs (Decidable (∀ other ∈ others, _))

namespace NodeEvent

/-- Whether an event is a tick that gets a listing. -/
def fetches : NodeEvent → Bool
  | .tick (.ok _) => true
  | _ => false

/-- Whether an event changes the local node. -/
def updates : NodeEvent → Bool
  | .updateLocal _ => true
  | _ => false

/-- The local nodes of a run, from the first on. An update leaves what its change makes of the local
node, one generation on. -/
def localNodes : List NodeEvent → LocalNode → List LocalNode
  | [], node => [node]
  | .updateLocal change :: rest, node =>
    node :: localNodes rest { change node with generation := (change node).generation + 1 }
  | _ :: rest, node => localNodes rest node

/-- Generations tell the local nodes of a run apart: no update brings back a generation that the
local node had before as another one. -/
def GenerationsTell (events : List NodeEvent) (node : LocalNode) : Prop :=
  ∀ later ∈ localNodes events node, later.ToldApart (localNodes events node)

instance (events : List NodeEvent) (node : LocalNode) : Decidable (GenerationsTell events node) :=
  inferInstanceAs (Decidable (∀ later ∈ localNodes events node, _))

section Generations

variable (events : List NodeEvent) (node : LocalNode)

/-- Other events than updates leave the local node alone. -/
theorem localNodes_cons {event : NodeEvent} (rest : List NodeEvent)
    (quiet : ∀ change, event = .updateLocal change → False) :
    localNodes (event :: rest) node = localNodes rest node :=
  localNodes.eq_3 node event rest quiet

theorem mem_localNodes_self : node ∈ localNodes events node := by
  induction events, node using localNodes.induct with
  | case1 node => exact List.mem_singleton_self node
  | case2 change rest node _ => exact List.mem_cons_self
  | case3 event rest node quiet inductionHypothesis => rwa [localNodes_cons node rest quiet]

/-- Where changes leave the generation to the update, it counts the updates in 64 bits. -/
theorem generation_of_mem_localNodes
    (left : ∀ change, .updateLocal change ∈ events →
      ∀ node, (change node).generation = node.generation) :
    ∀ later ∈ localNodes events node, ∃ count ≤ events.countP updates,
      later.generation.toNat = (node.generation.toNat + count) % UInt64.size := by
  have uncounted (node : LocalNode) (most : Nat) : ∃ count ≤ most,
      node.generation.toNat = (node.generation.toNat + count) % UInt64.size :=
    ⟨0, Nat.zero_le most, (Nat.mod_eq_of_lt node.generation.toNat_lt).symm⟩
  induction events, node using localNodes.induct with
  | case1 node =>
    intro later member
    rw [List.mem_singleton.mp member]
    exact uncounted node 0
  | case2 change rest node inductionHypothesis =>
    rintro later (_ | ⟨_, member⟩)
    · exact uncounted node _
    · obtain ⟨count, most, counted⟩ := inductionHypothesis
        (fun change member => left change (List.mem_cons_of_mem _ member)) later member
      refine ⟨count + 1, ?_, ?_⟩
      · rw [List.countP_cons_of_pos rfl]
        omega
      · rw [counted, left change List.mem_cons_self, UInt64.toNat_add]
        simp only [UInt64.size, UInt64.toNat_one]
        omega
  | case3 event rest node quiet inductionHypothesis =>
    rw [localNodes_cons node rest quiet]
    intro later member
    obtain ⟨count, most, counted⟩ := inductionHypothesis
      (fun change member => left change (List.mem_cons_of_mem _ member)) later member
    exact ⟨count, Nat.le_trans most (List.sublist_cons_self event rest).countP_le, counted⟩

/-- So with fewer than 2⁶⁴ updates no generation comes back. -/
theorem generations_nodup_of_counted
    (left : ∀ change, .updateLocal change ∈ events →
      ∀ node, (change node).generation = node.generation)
    (few : events.countP updates < UInt64.size) :
    ((localNodes events node).map LocalNode.generation).Nodup := by
  induction events, node using localNodes.induct with
  | case1 node => exact List.nodup_singleton node.generation
  | case2 change rest node inductionHypothesis =>
    have restLeft := fun change member => left change (List.mem_cons_of_mem _ member)
    rw [List.countP_cons_of_pos rfl] at few
    refine List.nodup_cons.mpr ⟨fun again => ?_,
      inductionHypothesis restLeft (Nat.lt_of_succ_lt few)⟩
    -- After one update and at most all the others the count has not come round.
    obtain ⟨later, member, same⟩ := List.mem_map.mp again
    obtain ⟨count, most, counted⟩ := generation_of_mem_localNodes rest _ restLeft later member
    rw [same, left change List.mem_cons_self, UInt64.toNat_add] at counted
    have bounded := node.generation.toNat_lt
    simp only [UInt64.size, UInt64.toNat_one] at counted few
    omega
  | case3 event rest node quiet inductionHypothesis =>
    rw [localNodes_cons node rest quiet]
    exact inductionHypothesis (fun change member => left change (List.mem_cons_of_mem _ member))
      (Nat.lt_of_le_of_lt (List.sublist_cons_self event rest).countP_le few)

/-- And all local nodes are told apart, if all changes leave the generation to the update. -/
theorem generationsTell_of_counted
    (left : ∀ change, .updateLocal change ∈ events →
      ∀ node, (change node).generation = node.generation)
    (few : events.countP updates < UInt64.size) : GenerationsTell events node :=
  fun _ member _ otherMember same =>
    List.inj_on_of_nodup_map (generations_nodup_of_counted events node left few) otherMember
      member same

end Generations

end NodeEvent

namespace Node

open Reconciler

variable {World : Type} (driver : Driver World)

/-- A node whose reconciler has not run yet. -/
def start (localNode : LocalNode) (cache : DeviceCache) (applier : Applier) (world : World) :
    Node World :=
  { localNode, cache, reconciler := { applier }, world }

/-- One event. -/
def step (node : Node World) : NodeEvent → Node World
  | .tick fetched => (node.tick driver fetched).2
  | .awaitSession => { node with reconciler := node.reconciler.awaitSession }
  | .resume => { node with reconciler := node.reconciler.resume }
  | .recordHealth results => { node with cache := node.cache.recordHealth results }
  | .updateLocal change => { node with localNode := node.localNode.update change }

/-- Any number of events, one after another. -/
def run (events : List NodeEvent) (node : Node World) : Node World :=
  events.foldl (step driver) node

/-- What a full pass over prepared peers plans. -/
def planFor (peers : List PeerRecord) (node : Node World) : Plan :=
  plan node.reconciler.applied
    (pathsOf node.localNode peers (node.cache.relayHealthyAmong peers))

/-- The changes that a full pass over prepared peers makes. -/
def changesFor (peers : List PeerRecord) (node : Node World) : List Change :=
  node.reconciler.difference (node.planFor peers).desired

/-- The pass over the tunnel that is part of a full pass. -/
def passOver (peers : List PeerRecord) (node : Node World) : Applier.Pass World :=
  Applier.apply driver (node.reconciler.toConfigure (node.planFor peers).desired)
    (node.reconciler.toRemove (node.planFor peers).desired) node.reconciler.applier node.world

section FullPass

variable (peers : List PeerRecord) (node : Node World)

/-- The pass over the tunnel is the fold of its changes. -/
theorem passOver_eq_foldl :
    node.passOver driver peers = (node.changesFor peers).foldl (Applier.Pass.change driver)
      ⟨{}, node.reconciler.applier, node.world⟩ :=
  Applier.apply_eq_foldl driver _ _ _ _

/-- The keys that a full pass changes are distinct. -/
theorem changesFor_nodup : ((node.changesFor peers).map Change.key).Nodup :=
  node.reconciler.difference_nodup _ (plan_keyed _ _)

/-- Only keys that a pass changes fail in it. -/
theorem not_failed_of_unchanged (key : PublicKey)
    (absent : key ∉ (node.changesFor peers).map Change.key) :
    (node.passOver driver peers).report.failed key = false := by
  rw [passOver_eq_foldl, (Applier.failed_movesOwnKey driver).foldl_other _ _ _ absent]
  rfl

/-- After a full pass the dirty keys are those that failed in it, and every other key is applied
as it is desired. -/
theorem fullPass_settles (key : PublicKey) :
    let after := (node.fullPass driver peers).2.reconciler
    let report := (node.fullPass driver peers).1.apply
    (key ∈ after.dirty ↔ report.failed key = true) ∧
      (report.failed key = false →
        after.applied.get? key = (node.planFor peers).desired.get? key) :=
  settle_difference (node.passOver driver peers).report
    { node.reconciler with applier := (node.passOver driver peers).applier }
    (node.planFor peers).desired (plan_keyed _ _)
    (fun other absent => not_failed_of_unchanged driver peers node other absent) key

end FullPass

section Tick

variable (fetched : Except ListingError (List PeerRecord)) (node : Node World)

/-- The four ways of a tick. -/
theorem tick_cases :
    (∃ reason, fetched = .error (.transient reason) ∧
        node.tick driver fetched = (.ok { outcome := .skipped }, node)) ∨
      (∃ reason, fetched = .error (.unauthorized reason) ∧
        node.tick driver fetched =
          (.error (.unauthorized reason),
            { node with reconciler := node.reconciler.awaitSession })) ∨
      (∃ listing, fetched = .ok listing ∧
        node.reconciler.mustRun node.localNode node.cache (prepare node.localNode listing) =
          false ∧
        node.tick driver fetched = (.ok { outcome := .unchanged }, node)) ∨
      (∃ listing, fetched = .ok listing ∧
        node.reconciler.mustRun node.localNode node.cache (prepare node.localNode listing) =
          true ∧
        node.tick driver fetched =
          (.ok (node.fullPass driver (prepare node.localNode listing)).1,
            (node.fullPass driver (prepare node.localNode listing)).2)) := by
  match fetched with
  | .error (.transient reason) => exact Or.inl ⟨reason, rfl, rfl⟩
  | .error (.unauthorized reason) => exact Or.inr (Or.inl ⟨reason, rfl, rfl⟩)
  | .ok listing =>
    cases must :
      node.reconciler.mustRun node.localNode node.cache (prepare node.localNode listing) with
    | false => exact Or.inr (Or.inr (Or.inl ⟨listing, rfl, must, by simp [tick, must]⟩))
    | true => exact Or.inr (Or.inr (Or.inr ⟨listing, rfl, must, by simp [tick, must]⟩))

/-- A tick does not touch what the node knows about itself. -/
theorem tick_localNode : (node.tick driver fetched).2.localNode = node.localNode := by
  rcases tick_cases driver fetched node with
    ⟨_, _, ticked⟩ | ⟨_, _, ticked⟩ | ⟨_, _, _, ticked⟩ | ⟨_, _, _, ticked⟩
  · rw [ticked]
  · rw [ticked]
  · rw [ticked]
  · rw [ticked]
    rfl

/-- A tick that is due makes a full pass over what its listing is prepared to. -/
theorem tick_of_prepared (listing peers : List PeerRecord)
    (prepared : prepare node.localNode listing = peers)
    (due : node.reconciler.mustRun node.localNode node.cache peers = true) :
    node.tick driver (.ok listing) =
      (.ok (node.fullPass driver peers).1, (node.fullPass driver peers).2) := by
  subst prepared
  exact if_pos due

end Tick

/-- What an event makes of the local node is ahead of it, and so is what the events after that
make of it. -/
theorem localNodes_step (event : NodeEvent) (rest : List NodeEvent) (node : Node World) :
    NodeEvent.localNodes rest (node.step driver event).localNode ⊆
      NodeEvent.localNodes (event :: rest) node.localNode := by
  cases event with
  | tick fetched =>
    rw [step, tick_localNode]
    exact List.Subset.refl _
  | awaitSession => exact List.Subset.refl _
  | resume => exact List.Subset.refl _
  | recordHealth results => exact List.Subset.refl _
  | updateLocal change => exact List.subset_cons_self _ _

theorem run_localNode_mem (events : List NodeEvent) (node : Node World) :
    (run driver events node).localNode ∈ NodeEvent.localNodes events node.localNode := by
  induction events generalizing node with
  | nil => exact NodeEvent.mem_localNodes_self [] node.localNode
  | cons event rest inductionHypothesis =>
    exact localNodes_step driver event rest node (inductionHypothesis (node.step driver event))

/-- An event makes a full pass, or leaves the tunnel and what is known of it alone. -/
theorem step_cases (event : NodeEvent) (node : Node World) :
    (∃ listing, event = .tick (.ok listing) ∧
        node.reconciler.mustRun node.localNode node.cache (prepare node.localNode listing) =
          true ∧
        node.step driver event = (node.fullPass driver (prepare node.localNode listing)).2) ∨
      ((node.step driver event).reconciler.dirty = node.reconciler.dirty ∧
        (node.step driver event).reconciler.applied = node.reconciler.applied ∧
        (node.step driver event).reconciler.applier = node.reconciler.applier ∧
        (node.step driver event).world = node.world) := by
  cases event with
  | tick fetched =>
    rcases tick_cases driver fetched node with
      ⟨_, _, ticked⟩ | ⟨_, _, ticked⟩ | ⟨_, _, _, ticked⟩ | ⟨listing, rfl, must, ticked⟩
    · rw [step, ticked]
      exact Or.inr ⟨rfl, rfl, rfl, rfl⟩
    · rw [step, ticked]
      exact Or.inr ⟨rfl, rfl, rfl, rfl⟩
    · rw [step, ticked]
      exact Or.inr ⟨rfl, rfl, rfl, rfl⟩
    · exact Or.inl ⟨listing, rfl, must, by rw [step, ticked]⟩
  | awaitSession => exact Or.inr ⟨rfl, rfl, rfl, rfl⟩
  | resume => exact Or.inr ⟨rfl, rfl, rfl, rfl⟩
  | recordHealth results => exact Or.inr ⟨rfl, rfl, rfl, rfl⟩
  | updateLocal change => exact Or.inr ⟨rfl, rfl, rfl, rfl⟩

/-- What holds at the start, and is kept by a full pass and by every other event of a run, holds
after the run. -/
theorem run_induction {invariant : Node World → Prop} (events : List NodeEvent)
    (passed : ∀ listing node, invariant node →
      invariant (node.fullPass driver (prepare node.localNode listing)).2)
    (awaited : ∀ node, invariant node →
      invariant { node with reconciler := node.reconciler.awaitSession })
    (resumed : ∀ node, invariant node →
      invariant { node with reconciler := node.reconciler.resume })
    (recorded : ∀ results node, invariant node →
      invariant { node with cache := node.cache.recordHealth results })
    (updated : ∀ change, NodeEvent.updateLocal change ∈ events → ∀ node, invariant node →
      invariant { node with localNode := node.localNode.update change })
    (node : Node World) (initial : invariant node) : invariant (run driver events node) := by
  induction events generalizing node with
  | nil => exact initial
  | cons event rest inductionHypothesis =>
    have restUpdated : ∀ change, NodeEvent.updateLocal change ∈ rest → ∀ node, invariant node →
        invariant { node with localNode := node.localNode.update change } :=
      fun change member => updated change (List.mem_cons_of_mem _ member)
    refine inductionHypothesis restUpdated (step driver node event) ?_
    cases event with
    | tick fetched =>
      rcases tick_cases driver fetched node with
        ⟨_, _, ticked⟩ | ⟨_, _, ticked⟩ | ⟨_, _, _, ticked⟩ | ⟨listing, _, _, ticked⟩
      · rwa [step, ticked]
      · rw [step, ticked]
        exact awaited node initial
      · rwa [step, ticked]
      · rw [step, ticked]
        exact passed listing node initial
    | awaitSession => exact awaited node initial
    | resume => exact resumed node initial
    | recordHealth results => exact recorded results node initial
    | updateLocal change => exact updated change List.mem_cons_self node initial

/-- After every run applied peers stand under their own keys. -/
theorem run_keyed (localNode : LocalNode) (cache : DeviceCache) (applier : Applier)
    (world : World) (events : List NodeEvent) :
    Keyed (run driver events (start localNode cache applier world)).reconciler.applied := by
  refine @run_induction _ driver (fun node => Keyed node.reconciler.applied) events
    ?passed ?awaited ?resumed ?recorded ?updated _ ?initial
  case passed => exact fun listing node keyed => keyed_settle _ _ _ _ keyed
  case awaited => exact fun node keyed => keyed
  case resumed => exact fun node keyed => keyed
  case recorded => exact fun results node keyed => keyed
  case updated => exact fun change _ node keyed => keyed
  case initial => exact fun key peer found => nomatch found

end Node

/-! ## A small mesh -/

namespace Sample

/-- The key with a given last byte. -/
def key (last : UInt8) : PublicKey := ⟨⟨List.replicate 31 0 ++ [last], by simp⟩⟩

/-- The prefix of one tunnel address. -/
def network (last : BitVec 32) : Network := ⟨.v4 (0x64400000 + last), 32, Nat.le_refl _⟩

/-- A listed device that a reflector sees at a given address; the address may be unfinished. -/
def device (mapped : String) : PeerRecord :=
  { id := ⟨1⟩
    publicKey := key 1
    endpoints := [⟨.reflector "", mapped⟩]
    allowed := [network 1]
    organization := ⟨0⟩ }

/-- A listed relay that a reflector sees at a given address. -/
def relay (mapped : String) : PeerRecord := { device mapped with relay := true }

/-- A whole network behind a device. -/
def subnet (number : BitVec 8) : Network :=
  ⟨.v4 (0x0A000000 + number.setWidth 32 <<< 16), 16, Nat.le_add_right 16 16⟩

/-- The network of a whole organization. -/
def overlay : Network := ⟨.v4 0x64400000, 10, Nat.le_add_right 10 22⟩

/-- A listed device behind a symmetric NAT, with a network of its own. -/
def hidden (number : UInt8) : PeerRecord :=
  { id := ⟨number.toBitVec.setWidth 128⟩
    publicKey := key number
    endpoints := [⟨.reflector "", "3.3.3.3:51820"⟩]
    allowed := [network (number.toBitVec.setWidth 32)]
    advertised := [subnet number.toBitVec]
    symmetricNat := true
    organization := ⟨0⟩ }

/-- A local node on another network than the devices. -/
def home : LocalNode := { publicKey := key 0, reflexive := ⟨.v4 0x01010101, 51820, 0⟩ }

end Sample

end MeshNode
