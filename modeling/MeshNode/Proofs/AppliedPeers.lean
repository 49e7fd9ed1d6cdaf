import MeshNode.Proofs.Convergence

/-!
# Where applied configurations come from

What is applied for a key is what some pass wanted for it: a pass leaves a key with what
was applied before or with what it desires. And a pass desires two kinds of peers only. It
dials a listed device, or it keeps what is applied for a listed device that converges;
a relay carries the relayed prefixes besides.

So a property of applied peers is one of every reachable node as soon as each such
configuration of each tick has it, given that those applied before the tick do. Two follow at
once: the prefixes of an applied peer are truncated and distinct, and no applied peer is
reached through the relay.
-/

namespace MeshNode

namespace Reconciler

section Settled

variable (report : ApplyReport)

/-- Settling changes leaves a key with what was applied for it or with what one of its changes
wants. -/
theorem applied_foldl_settleChange_cases (changes : List Change) (reconciler : Reconciler)
    (key : PublicKey) (peer : TunnelPeer)
    (found : (changes.foldl (settleChange report) reconciler).applied.get? key = some peer) :
    reconciler.applied.get? key = some peer ∨
      ∃ change ∈ changes, change.key = key ∧ change.wanted = some peer := by
  induction changes generalizing reconciler with
  | nil => exact Or.inl found
  | cons first rest inductionHypothesis =>
    rcases inductionHypothesis (settleChange report reconciler first) found with
      settled | ⟨change, member, own, wanted⟩
    · rcases applied_settleChange_cases report reconciler first key peer settled with
        before | ⟨own, wanted⟩
      · exact Or.inl before
      · exact Or.inr ⟨first, List.mem_cons_self, own, wanted⟩
    · exact Or.inr ⟨change, List.mem_cons_of_mem _ member, own, wanted⟩

/-- Settling a pass leaves a key with what was applied for it or with what is desired. -/
theorem applied_settle_cases (reconciler : Reconciler) (desired : Table PublicKey TunnelPeer)
    (keyed : Keyed desired) (key : PublicKey) (peer : TunnelPeer)
    (found : (settle report (reconciler.toConfigure desired) (reconciler.toRemove desired)
      reconciler).applied.get? key = some peer) :
    reconciler.applied.get? key = some peer ∨ desired.get? key = some peer := by
  rw [settle_eq_foldl] at found
  rcases applied_foldl_settleChange_cases report _ reconciler key peer found with
    before | ⟨change, member, rfl, wanted⟩
  · exact Or.inl before
  · refine Or.inr (Eq.trans ?_ wanted)
    exact (reconciler.wanted_of_mem_difference desired keyed change member).symm

end Settled

section Children

variable (peer : PeerRecord) (children : List Network) (config : TunnelPeer)

/-- Only relays carry children. -/
theorem carryChildren_of_ordinary (ordinary : peer.relay = false) :
    carryChildren peer children config = config := by
  simp [carryChildren, ordinary]

/-- A relay carries the children behind its own prefixes, each that is not among them once. -/
theorem carryChildren_of_relay (relay : peer.relay = true)
    (apart : Network.Distinct config.allowed) :
    carryChildren peer children config =
      { config with
        allowed := config.allowed ++
          (Network.distinct children).filter fun child => child ∉ config.allowed } := by
  cases children with
  | nil => simp [carryChildren, Network.distinct, Network.distinctAfter]
  | cons first rest => simp [carryChildren, relay, apart.append]

theorem method_carryChildren : (carryChildren peer children config).method = config.method := by
  unfold carryChildren
  split <;> rfl

theorem distinct_carryChildren (apart : Network.Distinct config.allowed) :
    Network.Distinct (carryChildren peer children config).allowed := by
  unfold carryChildren
  split
  · exact Network.distinct_of_list _
  · exact apart

/-- A relay carries what it was allowed before and the children. -/
theorem mem_allowed_carryChildren_iff (relay : peer.relay = true)
    (apart : Network.Distinct config.allowed) (network : Network) :
    network ∈ (carryChildren peer children config).allowed ↔
      network ∈ config.allowed ∨ ∃ child ∈ children, child.truncate = network := by
  rw [carryChildren_of_relay peer children config relay apart, List.mem_append, List.mem_filter,
    Network.mem_distinct_iff, decide_eq_true_eq]
  constructor
  · exact Or.imp_right And.left
  · rintro (own | carried)
    · exact Or.inl own
    · by_cases own : network ∈ config.allowed
      · exact Or.inl own
      · exact Or.inr ⟨carried, own⟩

/-- What is carried was allowed before or is one of the children. -/
theorem mem_allowed_carryChildren (apart : Network.Distinct config.allowed) (network : Network)
    (member : network ∈ (carryChildren peer children config).allowed) :
    network ∈ config.allowed ∨ ∃ child ∈ children, child.truncate = network := by
  cases relay : peer.relay with
  | false =>
    rw [carryChildren_of_ordinary peer children config relay] at member
    exact Or.inl member
  | true => exact (mem_allowed_carryChildren_iff peer children config relay apart network).mp member

/-- Nothing that was allowed before is lost by carrying children. -/
theorem allowed_subset_carryChildren (apart : Network.Distinct config.allowed) :
    config.allowed ⊆ (carryChildren peer children config).allowed := by
  intro network member
  cases relay : peer.relay with
  | false => rwa [carryChildren_of_ordinary peer children config relay]
  | true =>
    exact (mem_allowed_carryChildren_iff peer children config relay apart network).mpr
      (Or.inl member)

end Children

/-- The prefixes of what is dialled are distinct. -/
theorem distinct_of_select_direct (node : LocalNode) (relayHealthy : Bool) (record : PeerRecord)
    (config : TunnelPeer)
    (selected : PeerPath.select node record relayHealthy = .direct config) :
    Network.Distinct config.allowed := by
  obtain ⟨method, socket, dialled⟩ := dial_of_select_direct node relayHealthy record config selected
  rw [(of_dial_direct node record method socket config dialled).2]
  exact Network.distinct_of_list _

/-- Nothing is dialled through the relay. -/
theorem method_of_select_direct (node : LocalNode) (relayHealthy : Bool) (record : PeerRecord)
    (config : TunnelPeer)
    (selected : PeerPath.select node record relayHealthy = .direct config) :
    config.method ≠ .viaRelay := by
  rcases select_cases node relayHealthy record with
    ⟨method, socket, direct, dialled⟩ | relayed | unreachable
  · rw [dialled] at selected
    cases socket with
    | none => cases selected
    | some endpoint => exact PeerPath.direct.inj selected ▸ direct
  · rw [relayed] at selected
    cases selected
  · rw [unreachable] at selected
    cases selected

end Reconciler

/-- Whether a path goes through the relay. -/
def PeerPath.isRelayed : PeerPath → Bool
  | .viaRelay _ => true
  | _ => false

/-- The relayed prefixes are what the relayed peers advertise, in the order of the peers. -/
theorem Reconciler.relayedChildren_pathsOf (node : LocalNode) (peers : List PeerRecord)
    (relayHealthy : Bool) :
    relayedChildren (pathsOf node peers relayHealthy) =
      (peers.filter fun record =>
        (PeerPath.select node record relayHealthy).isRelayed).flatMap PeerRecord.advertised := by
  unfold relayedChildren pathsOf
  induction peers with
  | nil => rfl
  | cons record rest inductionHypothesis =>
    rw [List.map_cons, List.flatMap_cons, inductionHypothesis, List.filter_cons]
    cases selected : PeerPath.select node record relayHealthy with
    | viaRelay child =>
      obtain ⟨rfl, _⟩ := of_select_viaRelay node relayHealthy record child selected
      simp [PeerPath.isRelayed]
    | direct config => simp [PeerPath.isRelayed]
    | converging method => simp [PeerPath.isRelayed]
    | unreachable => simp [PeerPath.isRelayed]

namespace Node

open Reconciler

variable {World : Type} (driver : Driver World)

/-- The prefixes that relays carry for others in a pass over prepared peers. -/
def childrenFor (peers : List PeerRecord) (node : Node World) : List Network :=
  relayedChildren (pathsOf node.localNode peers (node.cache.relayHealthyAmong peers))

/-- Every applied peer has a property. -/
def AllApplied (holds : TunnelPeer → Prop) (node : Node World) : Prop :=
  ∀ key peer, node.reconciler.applied.get? key = some peer → holds peer

/-- What a pass over prepared peers wants for the key of a record. -/
inductive Wants (peers : List PeerRecord) (node : Node World) (record : PeerRecord) :
    TunnelPeer → Prop
  /-- The record is dialled. -/
  | dialled (config : TunnelPeer)
      (selected : PeerPath.select node.localNode record (node.cache.relayHealthyAmong peers) =
        .direct config) :
      Wants peers node record (carryChildren record (node.childrenFor peers) config)
  /-- The record converges and keeps what is applied for its key. -/
  | kept (config : TunnelPeer) (method : PeeringMethod)
      (selected : PeerPath.select node.localNode record (node.cache.relayHealthyAmong peers) =
        .converging method)
      (applied : node.reconciler.applied.get? record.publicKey = some config) :
      Wants peers node record (carryChildren record (node.childrenFor peers) config)

section Planned

variable (peers : List PeerRecord) (node : Node World)

theorem wants_iff (record : PeerRecord) (config : TunnelPeer) :
    node.Wants peers record config ↔
      desiredConfig? node.reconciler.applied (node.childrenFor peers) record
        (PeerPath.select node.localNode record (node.cache.relayHealthyAmong peers)) =
          some config := by
  constructor
  · rintro (⟨base, selected⟩ | ⟨base, method, selected, applied⟩)
    · rw [selected]
      rfl
    · rw [selected, desiredConfig?, configOf?, applied]
      rfl
  · intro asked
    obtain ⟨base, found, rfl⟩ := Option.map_eq_some_iff.mp asked
    cases selected : PeerPath.select node.localNode record
        (node.cache.relayHealthyAmong peers) with
    | direct dialled =>
      simp only [selected, configOf?, Option.some.injEq] at found
      exact found ▸ .dialled dialled selected
    | converging method =>
      simp only [selected, configOf?] at found
      exact .kept base method selected found
    | viaRelay child => simp [selected, configOf?] at found
    | unreachable => simp [selected, configOf?] at found

/-- What is wanted for a record has its key. -/
theorem Wants.publicKey {peers : List PeerRecord} {node : Node World} {record : PeerRecord}
    {config : TunnelPeer} (wants : node.Wants peers record config)
    (keyed : Keyed node.reconciler.applied) : config.publicKey = record.publicKey := by
  cases wants with
  | dialled base selected =>
    rw [publicKey_carryChildren]
    exact publicKey_of_select_direct _ _ record base selected
  | kept base method selected applied =>
    rw [publicKey_carryChildren]
    exact keyed record.publicKey base applied

/-- A property of what is dialled that carrying children keeps is one of what is wanted, if the
applied peers have it. -/
theorem Wants.of_dialled {peers : List PeerRecord} {node : Node World} {record : PeerRecord}
    {config : TunnelPeer} (wants : node.Wants peers record config) {holds : TunnelPeer → Prop}
    (dialled : ∀ node relayHealthy record config,
      PeerPath.select node record relayHealthy = .direct config → holds config)
    (carried : ∀ record children config, holds config →
      holds (carryChildren record children config))
    (held : node.AllApplied holds) : holds config := by
  cases wants with
  | dialled base selected => exact carried _ _ _ (dialled _ _ _ base selected)
  | kept base method selected applied => exact carried _ _ _ (held _ base applied)

/-- Nothing is wanted through the relay, if nothing is applied so. -/
theorem Wants.method {peers : List PeerRecord} {node : Node World} {record : PeerRecord}
    {config : TunnelPeer} (wants : node.Wants peers record config)
    (held : node.AllApplied fun peer => peer.method ≠ .viaRelay) : config.method ≠ .viaRelay :=
  wants.of_dialled method_of_select_direct
    (fun record children config direct => by rwa [method_carryChildren]) held

/-- Every desired peer is wanted for the key of one of the records, under which it stands. -/
theorem wants_of_desired (keyed : Keyed node.reconciler.applied) (key : PublicKey)
    (config : TunnelPeer) (found : (node.planFor peers).desired.get? key = some config) :
    ∃ record ∈ peers, record.publicKey = key ∧ node.Wants peers record config := by
  obtain ⟨pair, member, asked⟩ := planThrough_asked _ _ _ key config found
  obtain ⟨record, recordMember, rfl⟩ := List.mem_map.mp member
  have wants : node.Wants peers record config := (wants_iff peers node record config).mpr asked
  have standing : config.publicKey = key := plan_keyed _ _ key config found
  exact ⟨record, recordMember, (wants.publicKey keyed).symm.trans standing, wants⟩

/-- Where keys are distinct, what is desired for the key of a record is what is wanted for it. -/
theorem desired_iff_wants (keyed : Keyed node.reconciler.applied)
    (apart : (peers.map PeerRecord.publicKey).Nodup) (record : PeerRecord)
    (member : record ∈ peers) (config : TunnelPeer) :
    (node.planFor peers).desired.get? record.publicKey = some config ↔
      node.Wants peers record config := by
  have asked := desired_of_mem_paths node.reconciler.applied (node.childrenFor peers)
    (pathsOf node.localNode peers (node.cache.relayHealthyAmong peers))
    (by rwa [publicKeys_pathsOf]) (asksOwnKey_pathsOf node.localNode _ _ keyed _ peers) _
    (List.mem_map.mpr ⟨record, member, rfl⟩)
  rw [wants_iff, ← asked]
  rfl

/-- After a pass without failures over a listing with distinct keys, what is applied for the key of
a listed record is what is wanted for it. -/
theorem applied_iff_wants (keyed : Keyed node.reconciler.applied) (listing : List PeerRecord)
    (apart : (listing.map PeerRecord.publicKey).Nodup)
    (clean : (node.fullPass driver (prepare node.localNode listing)).1.apply.isClean = true)
    (record : PeerRecord) (listed : record ∈ listing) (config : TunnelPeer) :
    (node.fullPass driver (prepare node.localNode listing)).2.reconciler.applied.get?
        record.publicKey = some config ↔
      record ∈ prepare node.localNode listing ∧
        node.Wants (prepare node.localNode listing) record config := by
  rw [(fullPass_clean driver _ node clean).2]
  constructor
  · intro found
    obtain ⟨twin, member, same, wants⟩ := wants_of_desired _ node keyed _ config found
    have twinListed : twin ∈ listing := (mem_of_mem_prepare node.localNode listing twin member).1
    obtain rfl : twin = record := List.inj_on_of_nodup_map apart twinListed listed same
    exact ⟨member, wants⟩
  · rintro ⟨member, wants⟩
    exact (desired_iff_wants _ node keyed
      (prepare_map_nodup node.localNode listing PeerRecord.publicKey apart) record member
      config).mpr wants

/-- The carried prefixes are those that the devices behind the relay advertise. -/
theorem mem_childrenFor_iff (child : Network) :
    child ∈ node.childrenFor peers ↔
      ∃ record ∈ peers, PeerPath.select node.localNode record
        (node.cache.relayHealthyAmong peers) = .viaRelay record.advertised ∧
          child ∈ record.advertised := by
  simp only [childrenFor, relayedChildren, pathsOf, List.mem_flatMap, List.mem_map,
    exists_exists_and_eq_and]
  refine exists_congr fun record => and_congr_right fun _ => ?_
  cases selected : PeerPath.select node.localNode record
      (node.cache.relayHealthyAmong peers) with
  | viaRelay advertised =>
    obtain ⟨rfl, _⟩ := of_select_viaRelay node.localNode _ record advertised selected
    simp
  | direct config => simp
  | converging method => simp
  | unreachable => simp

end Planned

/-- A pass leaves a key with what was applied for it before or with what the pass desires. -/
theorem applied_fullPass_cases (peers : List PeerRecord) (node : Node World) (key : PublicKey)
    (peer : TunnelPeer)
    (found : (node.fullPass driver peers).2.reconciler.applied.get? key = some peer) :
    node.reconciler.applied.get? key = some peer ∨
      (node.planFor peers).desired.get? key = some peer :=
  applied_settle_cases (node.passOver driver peers).report
    { node.reconciler with applier := (node.passOver driver peers).applier }
    (node.planFor peers).desired (plan_keyed _ _) key peer found

/-- All applied peers of a run have a property that they have at the start, if what each tick of
the run wants has it where all peers that are applied before the tick do. -/
theorem run_allApplied {holds : TunnelPeer → Prop} (events : List NodeEvent) (node : Node World)
    (keyed : Keyed node.reconciler.applied) (initial : node.AllApplied holds)
    (wanted : ∀ earlier listing later, events = earlier ++ .tick (.ok listing) :: later →
      let past := run driver earlier node
      past.AllApplied holds → ∀ record ∈ prepare past.localNode listing, ∀ config,
        past.Wants (prepare past.localNode listing) record config → holds config) :
    (run driver events node).AllApplied holds := by
  induction events generalizing node with
  | nil => exact initial
  | cons event rest inductionHypothesis =>
    have stays : Keyed (step driver node event).reconciler.applied ∧
        (step driver node event).AllApplied holds := by
      rcases step_cases driver event node with ⟨listing, rfl, _, passed⟩ | ⟨_, unmoved, _⟩
      · rw [passed]
        refine ⟨keyed_settle _ _ _ _ keyed, fun key peer found => ?_⟩
        rcases applied_fullPass_cases driver _ node key peer found with before | desired
        · exact initial key peer before
        · obtain ⟨record, member, _, wants⟩ := wants_of_desired _ node keyed key peer desired
          exact wanted [] listing rest rfl initial record member peer wants
      · rw [AllApplied, unmoved]
        exact ⟨keyed, initial⟩
    exact inductionHypothesis (step driver node event) stays.1 stays.2
      fun earlier listing later same =>
        wanted (event :: earlier) listing later (congrArg (event :: ·) same)

section Reachable

variable (localNode : LocalNode) (cache : DeviceCache) (applier : Applier) (world : World)
  (events : List NodeEvent)

/-- A property of what is dialled that carrying children keeps is one of all applied peers. -/
theorem run_allApplied_of_dialled {holds : TunnelPeer → Prop}
    (dialled : ∀ node relayHealthy record config,
      PeerPath.select node record relayHealthy = .direct config → holds config)
    (carried : ∀ record children config, holds config →
      holds (carryChildren record children config)) :
    (run driver events (start localNode cache applier world)).AllApplied holds := by
  refine run_allApplied driver events _ (fun _ _ found => nomatch found)
    (fun _ _ found => nomatch found) ?_
  intro earlier listing later _ past held record _ config wants
  exact wants.of_dialled dialled carried held

/-- The prefixes of an applied peer are distinct. -/
theorem run_applied_distinct :
    (run driver events (start localNode cache applier world)).AllApplied fun peer =>
      Network.Distinct peer.allowed :=
  run_allApplied_of_dialled driver localNode cache applier world events
    distinct_of_select_direct distinct_carryChildren

/-- No applied peer is reached through the relay. -/
theorem run_applied_method :
    (run driver events (start localNode cache applier world)).AllApplied fun peer =>
      peer.method ≠ .viaRelay := by
  refine run_allApplied_of_dialled driver localNode cache applier world events
    method_of_select_direct fun record children config direct => ?_
  rwa [method_carryChildren]

end Reachable

end Node

namespace Sample

open Reconciler

/-- A node that dials a relay, which carries the network of a hidden device. -/
def served : Node ScriptedTunnel :=
  Node.run ScriptedTunnel.driver [.tick (.ok [relay "2.2.2.2:51820", hidden 2])]
    (Node.start home {} {} {})

/-- The node made one full pass; in this form it can be evaluated. -/
theorem served_eq :
    served = ((Node.start home {} {} ({} : ScriptedTunnel)).fullPass ScriptedTunnel.driver
      [relay "2.2.2.2:51820", hidden 2]).2 :=
  congrArg Prod.snd
    (Node.tick_of_prepared _ _ _ _ (prepare_of_ascending _ _ (by decide) (by decide)) rfl)

theorem prepare_served (listing : List PeerRecord) (ascending : Ascending listing)
    (others : ∀ record ∈ listing, home.isSelf record = false) :
    prepare served.localNode listing = listing := by
  rw [served_eq]
  exact prepare_of_ascending home listing ascending others

end Sample

end MeshNode
