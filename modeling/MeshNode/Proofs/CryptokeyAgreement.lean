import MeshNode.Proofs.Convergence
import MeshNode.Proofs.UserspacePasses

/-!
# The cryptokey table agrees with what is applied

The userspace tunnel grants every request, so no key is ever dirty. As long as no two
peers that are desired at once share a prefix, its cryptokey table holds after every run
exactly the prefixes of the applied peers, each with its peer, and tracks exactly those
routes that are no default ones. Packets to an address therefore go to the applied peer
with the longest prefix that contains it; what the tunnel originates besides needs a
tracked route.

Prefixes may move between peers in one pass, in either order. A change first takes every
prefix from its key and then gives it its new ones, whoever owns them; so the last giver
of a prefix is the one peer that is desired to have it, and nobody takes the prefix from
that peer later, for no other change lists it. A peer whose change comes later has lost
the prefix already and has nothing left to give up.
-/

namespace MeshNode

/-! ## Truncated configurations -/

namespace Network

theorem map_truncate (networks : List Network)
    (truncated : ∀ network ∈ networks, network.truncate = network) :
    networks.map truncate = networks :=
  (List.map_congr_left truncated).trans (List.map_id networks)

end Network

namespace Reconciler

/-- Every prefix of the peers is truncated. -/
def Truncated (peers : Table PublicKey TunnelPeer) : Prop :=
  ∀ key peer, peers.get? key = some peer → ∀ network ∈ peer.allowed, network.truncate = network

/-- Carrying children keeps prefixes truncated. -/
theorem truncated_carryChildren (peer : PeerRecord) (children : List Network)
    (config : TunnelPeer) (truncated : ∀ network ∈ config.allowed, network.truncate = network) :
    ∀ network ∈ (carryChildren peer children config).allowed, network.truncate = network := by
  unfold carryChildren
  split
  · exact Network.truncate_of_mem_distinct _
  · exact truncated

/-- Planning keeps prefixes truncated: dialling truncates, and a converging peer keeps what is
applied. -/
theorem plan_truncated (node : LocalNode) (relayHealthy : Bool) (peers : List PeerRecord)
    (applied : Table PublicKey TunnelPeer) (truncated : Truncated applied) :
    Truncated (plan applied (pathsOf node peers relayHealthy)).desired := by
  intro key config found
  obtain ⟨pair, member, asked⟩ := planThrough_asked applied _ _ key config found
  obtain ⟨peer, _, rfl⟩ := List.mem_map.mp member
  obtain ⟨base, based, rfl⟩ := Option.map_eq_some_iff.mp asked
  apply truncated_carryChildren
  cases selected : PeerPath.select node peer relayHealthy with
  | direct dialled =>
    simp only [selected, configOf?, Option.some.injEq] at based
    obtain ⟨method, socket, dial⟩ := dial_of_select_direct node relayHealthy peer dialled selected
    rw [← based, (of_dial_direct node peer method socket dialled dial).2]
    exact Network.truncate_of_mem_distinct _
  | converging method =>
    simp only [selected, configOf?] at based
    exact truncated peer.publicKey base based
  | viaRelay child => simp [selected, configOf?] at based
  | unreachable => simp [selected, configOf?] at based

end Reconciler

/-! ## A pass over the difference -/

/-- No two peers share a prefix. -/
def Apart (peers : Table PublicKey TunnelPeer) : Prop :=
  ∀ entry ∈ peers.entries, ∀ other ∈ peers.entries, entry.1 ≠ other.1 →
    ∀ network ∈ entry.2.allowed, network ∉ other.2.allowed

instance (peers : Table PublicKey TunnelPeer) : Decidable (Apart peers) :=
  inferInstanceAs (Decidable (∀ entry ∈ peers.entries, ∀ other ∈ peers.entries,
    entry.1 ≠ other.1 → ∀ network ∈ entry.2.allowed, network ∉ other.2.allowed))

theorem Apart.key_eq {peers : Table PublicKey TunnelPeer} (apart : Apart peers)
    {key other : PublicKey} {peer rival : TunnelPeer} {network : Network}
    (found : peers.get? key = some peer) (otherFound : peers.get? other = some rival)
    (listed : network ∈ peer.allowed) (otherListed : network ∈ rival.allowed) : key = other := by
  by_contra different
  exact apart (key, peer) ((peers.get?_eq_some_iff _ _).mp found) (other, rival)
    ((peers.get?_eq_some_iff _ _).mp otherFound) different network listed otherListed

namespace Change

/-- What a change gives is what it wants for its key. -/
theorem mem_given_iff (change : Change) (network : Network)
    (truncated : ∀ listed ∈ change.allowed, listed.truncate = listed) :
    network ∈ change.given ↔
      ∃ peer, change.wanted = some peer ∧ network ∈ peer.allowed := by
  rw [given, Network.map_truncate _ truncated]
  cases change with
  | configure peer => simp [allowed, wanted]
  | remove key => simp [allowed, wanted]

end Change

namespace Reconciler

section Difference

variable (reconciler : Reconciler) (desired : Table PublicKey TunnelPeer) (keyed : Keyed desired)

include keyed

/-- Changes of the difference leave every key with what is desired for it. -/
theorem foldl_update_difference :
    (reconciler.difference desired).foldl Change.update reconciler.applied.get? =
      desired.get? := by
  funext key
  by_cases changed : key ∈ (reconciler.difference desired).map Change.key
  · obtain ⟨change, member, rfl⟩ := List.mem_map.mp changed
    obtain ⟨before, same⟩ := Change.update_movesOwnKey.foldl_self
      (reconciler.difference desired) reconciler.applied.get?
      (reconciler.difference_nodup desired keyed) change member
    rw [same, ← reconciler.wanted_of_mem_difference desired keyed change member]
    exact Function.update_self _ _ _
  · rw [Change.update_movesOwnKey.foldl_other _ _ key changed]
    exact (reconciler.settled_of_not_mem_difference desired keyed key changed).2

theorem truncated_of_mem_difference (truncated : Truncated desired) (change : Change)
    (member : change ∈ reconciler.difference desired) :
    ∀ network ∈ change.allowed, network.truncate = network := by
  have wanted := reconciler.wanted_of_mem_difference desired keyed change member
  cases change with
  | configure peer => exact truncated peer.publicKey peer wanted.symm
  | remove key => exact fun network listed => by cases listed

/-- Where no two desired peers share a prefix, a table that held the prefixes of the applied peers
holds those of the desired ones after the changes of the difference. -/
theorem owner_foldl_difference (truncated : Truncated desired) (apart : Apart desired)
    (table : CryptokeyTable)
    (owners : ∀ network key, table.owners.get? network = some key ↔
      ∃ peer, reconciler.applied.get? key = some peer ∧ network ∈ peer.allowed)
    (network : Network) (key : PublicKey) :
    ((reconciler.difference desired).foldl CryptokeyTable.change table).owners.get? network =
        some key ↔
      ∃ peer, desired.get? key = some peer ∧ network ∈ peer.allowed := by
  have given : ∀ change ∈ reconciler.difference desired, network ∈ change.given ↔
      ∃ peer, desired.get? change.key = some peer ∧ network ∈ peer.allowed := by
    intro change member
    rw [change.mem_given_iff network
        (reconciler.truncated_of_mem_difference desired keyed truncated change member),
      reconciler.wanted_of_mem_difference desired keyed change member]
  rw [CryptokeyTable.owner_foldl_change_iff]
  constructor
  · rintro (⟨earlier, change, later, split, rfl, listed, _⟩ | ⟨owned, silent⟩)
    · have member : change ∈ reconciler.difference desired := by simp [split]
      exact (given change member).mp listed
    · have unchanged : key ∉ (reconciler.difference desired).map Change.key := by
        intro changed
        obtain ⟨change, member, own⟩ := List.mem_map.mp changed
        exact (silent change member).1 own
      rw [← (reconciler.settled_of_not_mem_difference desired keyed key unchanged).2]
      exact (owners network key).mp owned
  · rintro ⟨peer, wanted, listed⟩
    have silent : ∀ change ∈ reconciler.difference desired, change.key ≠ key →
        network ∉ change.given := by
      intro change member other taken
      obtain ⟨rival, rivalWanted, rivalListed⟩ := (given change member).mp taken
      exact other (apart.key_eq rivalWanted wanted rivalListed listed)
    by_cases changed : key ∈ (reconciler.difference desired).map Change.key
    · obtain ⟨change, member, rfl⟩ := List.mem_map.mp changed
      obtain ⟨earlier, later, split⟩ := List.append_of_mem member
      have nodup := reconciler.difference_nodup desired keyed
      rw [split, List.map_append, List.map_cons, List.nodup_append, List.nodup_cons] at nodup
      have once : ∀ other ∈ later, other.key ≠ change.key := fun other otherMember same =>
        nodup.2.1.1 (List.mem_map.mpr ⟨other, otherMember, same⟩)
      refine Or.inl ⟨earlier, change, later, split, rfl,
        (given change member).mpr ⟨peer, wanted, listed⟩, ?_⟩
      intro other otherMember
      have among : other ∈ reconciler.difference desired := by simp [split, otherMember]
      exact ⟨once other otherMember, silent other among (once other otherMember)⟩
    · obtain ⟨_, settled⟩ :=
        reconciler.settled_of_not_mem_difference desired keyed key changed
      refine Or.inr ⟨(owners network key).mpr ⟨peer, settled.trans wanted, listed⟩, ?_⟩
      intro change member
      have other : change.key ≠ key := fun same =>
        changed (List.mem_map.mpr ⟨change, member, same⟩)
      exact ⟨other, silent change member other⟩

end Difference

end Reconciler

namespace UserspaceTunnel

variable {Session : Type} (protocol : SessionProtocol Session)

/-- The tracked routes are exactly those that are relied on, and these are truncated. -/
structure Tracks (applier : Applier) (tunnel : UserspaceTunnel Session) : Prop where
  truncated : ∀ network, applier.Relies network → network.truncate = network
  exactly : ∀ network, network ∈ tunnel.routes ↔ applier.Relies network

namespace Tracks

variable {protocol}

/-- A change with truncated prefixes keeps tracking exact. -/
theorem carryOut {applier : Applier} {tunnel : UserspaceTunnel Session}
    (tracks : Tracks applier tunnel) (change : Change)
    (truncated : ∀ network ∈ change.allowed, network.truncate = network) :
    let after := Applier.carryOut (driver protocol) applier tunnel change
    Tracks after.2.1 after.2.2 := by
  intro after
  have done := (grants protocol).carryOut applier tunnel change
  have replaced : after.2.1 = applier.replaced change.key change.routes := by
    simp only [after, done]
  have wanted : change.routes.map Network.truncate = change.routes := by
    apply Network.map_truncate
    intro network listed
    rw [Change.routes_eq] at listed
    exact truncated network (List.mem_filter.mp listed).1
  have stale : (applier.stale change).map Network.truncate = applier.stale change := by
    apply Network.map_truncate
    intro network listed
    exact tracks.truncated network ⟨change.key, (List.mem_filter.mp listed).1⟩
  have relies : ∀ network, after.2.1.Relies network ↔
      (applier.Relies network ∨ network ∈ change.routes) ∧ network ∉ applier.stale change := by
    refine Applier.relies_replaced applier after.2.1 change.key change.routes
      (applier.stale change) ?own ?others ?givenUp
    case own => rw [replaced, Applier.routesOf_replaced, if_pos rfl]
    case others =>
      intro other different
      rw [replaced, Applier.routesOf_replaced, if_neg different]
    case givenUp => simp [Applier.stale]
  constructor
  · intro network relied
    rcases ((relies network).mp relied).1 with before | new
    · exact tracks.truncated network before
    · rw [← wanted] at new
      obtain ⟨listed, _, rfl⟩ := List.mem_map.mp new
      exact listed.truncate_truncate
  · intro network
    rw [relies, mem_routes_carryOut, tracks.exactly, wanted, stale]

/-- A pass whose changes have truncated prefixes keeps tracking exact. -/
theorem foldl_change (changes : List Change)
    (truncated : ∀ change ∈ changes, ∀ network ∈ change.allowed, network.truncate = network)
    (pass : Applier.Pass (UserspaceTunnel Session)) (tracks : Tracks pass.applier pass.world) :
    let after := changes.foldl (Applier.Pass.change (driver protocol)) pass
    Tracks after.applier after.world := by
  induction changes generalizing pass with
  | nil => exact tracks
  | cons change rest inductionHypothesis =>
    refine inductionHypothesis (fun later member =>
      truncated later (List.mem_cons_of_mem _ member)) (pass.change (driver protocol) change) ?_
    rw [Applier.change_applier, Applier.change_world]
    exact tracks.carryOut change (truncated change List.mem_cons_self)

end Tracks

/-- A peer carries packets to an address if a tracked route contains the address, the cryptokey
table names the peer, and it is configured. -/
theorem carrier?_key_iff (tunnel : UserspaceTunnel Session) (address : Address)
    (key : PublicKey) :
    (tunnel.carrier? address).map Prod.fst = some key ↔
      (∃ network ∈ tunnel.routes, network.contains address = true) ∧
        tunnel.cryptokeys.route? address = some key ∧ tunnel.peers.contains key = true := by
  rw [← List.any_eq_true, Table.contains, Option.isSome_iff_exists]
  by_cases tracked : (tunnel.routes.any fun network => network.contains address) = true
  · have carrier : tunnel.carrier? address =
        (tunnel.cryptokeys.route? address).bind fun owner =>
          (tunnel.peers.get? owner).bind fun session => some (owner, session) := by
      rw [carrier?, guard, if_pos tracked]
      rfl
    simp only [carrier, Option.map_eq_some_iff, Option.bind_eq_some_iff, Option.some.injEq]
    constructor
    · rintro ⟨_, ⟨owner, routed, session, found, rfl⟩, rfl⟩
      exact ⟨tracked, routed, session, found⟩
    · rintro ⟨_, routed, session, found⟩
      exact ⟨_, ⟨key, routed, session, found, rfl⟩, rfl⟩
  · have none : tunnel.carrier? address = none := by
      rw [carrier?, guard, if_neg tracked]
      rfl
    rw [none]
    constructor
    · intro impossible
      cases impossible
    · exact fun carried => absurd carried.1 tracked

end UserspaceTunnel

/-! ## Every run -/

namespace Node

open Reconciler UserspaceTunnel

section Events

variable {World : Type} (driver : Driver World)

/-- At every full pass of the run no two desired peers share a prefix. -/
def PlansApart : List NodeEvent → Node World → Prop
  | [], _ => True
  | event :: rest, node =>
    (match event with
      | .tick (.ok listing) =>
        node.reconciler.mustRun node.localNode node.cache (prepare node.localNode listing) =
            true →
          Apart (node.planFor (prepare node.localNode listing)).desired
      | _ => True) ∧
      PlansApart rest (node.step driver event)

end Events

variable {Session : Type} (protocol : SessionProtocol Session)

/-- The tunnel has what is applied, and nothing is dirty. -/
structure Refines (node : Node (UserspaceTunnel Session)) : Prop where
  settled : node.reconciler.dirty = []
  owns : node.OwnsRoutes {}
  truncated : Truncated node.reconciler.applied
  owners : ∀ network key, node.world.cryptokeys.owners.get? network = some key ↔
    ∃ peer, node.reconciler.applied.get? key = some peer ∧ network ∈ peer.allowed
  present : node.world.peers.contains = Option.isSome ∘ node.reconciler.applied.get?
  tracks : Tracks node.reconciler.applier node.world

namespace Refines

variable {protocol} {node : Node (UserspaceTunnel Session)}

theorem of_same (refines : node.Refines) {other : Node (UserspaceTunnel Session)}
    (dirty : other.reconciler.dirty = node.reconciler.dirty)
    (applied : other.reconciler.applied = node.reconciler.applied)
    (applier : other.reconciler.applier = node.reconciler.applier)
    (world : other.world = node.world) : other.Refines where
  settled := dirty.trans refines.settled
  owns := by
    rw [OwnsRoutes, dirty, applied, applier]
    exact refines.owns
  truncated := applied ▸ refines.truncated
  owners := by
    rw [world, applied]
    exact refines.owners
  present := by
    rw [world, applied]
    exact refines.present
  tracks := by
    rw [world, applier]
    exact refines.tracks

/-- A full pass over desired peers that share no prefix keeps the tunnel in agreement. -/
theorem fullPass (refines : node.Refines) (peers : List PeerRecord)
    (apart : Apart (node.planFor peers).desired) :
    (node.fullPass (driver protocol) peers).2.Refines := by
  have keyed : Keyed (node.planFor peers).desired := plan_keyed _ _
  have truncated : Truncated (node.planFor peers).desired :=
    plan_truncated _ _ _ _ refines.truncated
  have passed : node.passOver (driver protocol) peers =
      (node.changesFor peers).foldl (Applier.Pass.change (driver protocol))
        ⟨{}, node.reconciler.applier, node.world⟩ := passOver_eq_foldl _ _ _
  have world : (node.fullPass (driver protocol) peers).2.world =
      (node.passOver (driver protocol) peers).world := rfl
  have clean : (node.fullPass (driver protocol) peers).1.apply.isClean = true := by
    change (node.passOver (driver protocol) peers).report.failures.isEmpty = true
    rw [passed, (grants protocol).failures_foldl]
    rfl
  obtain ⟨settled, applied⟩ := fullPass_clean (driver protocol) peers node clean
  constructor
  case settled => exact settled
  case owns => exact fullPass_ownsRoutes (driver protocol) peers node refines.owns
  case truncated =>
    intro key peer found
    exact truncated key peer ((applied key).symm.trans found)
  case owners =>
    intro network key
    have cryptokeys := (cryptokeys_routeBlind protocol).foldl_change CryptokeyTable.change
      (cryptokeys_answer protocol) (node.changesFor peers)
      ⟨{}, node.reconciler.applier, node.world⟩
    rw [world, passed, cryptokeys, applied key]
    exact node.reconciler.owner_foldl_difference _ keyed truncated apart node.world.cryptokeys
      refines.owners network key
  case present =>
    have present := (contains_routeBlind protocol).foldl_change Change.mark
      (contains_answer protocol) (node.changesFor peers)
      ⟨{}, node.reconciler.applier, node.world⟩
    rw [world, passed, present, refines.present, Change.foldl_mark, changesFor,
      node.reconciler.foldl_update_difference _ keyed, funext applied]
  case tracks =>
    rw [applier_fullPass, world, passed]
    exact refines.tracks.foldl_change (node.changesFor peers)
      (node.reconciler.truncated_of_mem_difference _ keyed truncated) ⟨{}, _, _⟩

/-- Every run in which no two peers that are desired at once share a prefix keeps the tunnel in
agreement. -/
theorem run (events : List NodeEvent) (refines : node.Refines)
    (apart : PlansApart (driver protocol) events node) :
    (node.run (driver protocol) events).Refines := by
  induction events generalizing node with
  | nil => exact refines
  | cons event rest inductionHypothesis =>
    obtain ⟨now, later⟩ := apart
    refine inductionHypothesis ?_ later
    rcases step_cases (driver protocol) event node with
      ⟨listing, rfl, must, passed⟩ | ⟨dirty, applied, applier, world⟩
    · rw [passed]
      exact refines.fullPass _ (now must)
    · exact refines.of_same dirty applied applier world

/-- Before its first event a node has nothing applied, and the tunnel nothing at all. -/
theorem initial (localNode : LocalNode) (cache : DeviceCache)
    (tunnel : UserspaceTunnel Session) : (start localNode cache {} tunnel.vacated).Refines where
  settled := rfl
  owns _ _ := Or.inl rfl
  truncated key peer found := by cases found
  owners network key := by
    constructor
    · intro found
      cases found
    · rintro ⟨peer, found, _⟩
      cases found
  present := rfl
  tracks :=
    { truncated := by
        rintro network ⟨key, listed⟩
        cases listed
      exactly := fun network => by
        constructor
        · intro tracked
          cases tracked
        · rintro ⟨key, listed⟩
          cases listed }

end Refines

/-- The longest of the prefixes of some peers that contain an address is one of this peer. -/
def HasLongest (peers : Table PublicKey TunnelPeer) (address : Address) (key : PublicKey) : Prop :=
  ∃ peer network, peers.get? key = some peer ∧ network ∈ peer.allowed ∧
    network.contains address = true ∧
    ∀ rival held other, peers.get? rival = some held → other ∈ held.allowed →
      other.contains address = true → other.length ≤ network.length

theorem Refines.route?_iff {node : Node (UserspaceTunnel Session)} (refines : node.Refines)
    (address : Address) (key : PublicKey) :
    node.world.cryptokeys.route? address = some key ↔
      HasLongest node.reconciler.applied address key := by
  have truncated : node.world.cryptokeys.Truncated := by
    intro network owner found
    obtain ⟨peer, applied, listed⟩ := (refines.owners network owner).mp found
    exact refines.truncated owner peer applied network listed
  rw [CryptokeyTable.route?_eq_some_iff _ truncated]
  constructor
  · rintro ⟨network, found, contains, longest⟩
    obtain ⟨peer, applied, listed⟩ := (refines.owners network key).mp found
    refine ⟨peer, network, applied, listed, contains, ?_⟩
    intro rival held other rivalApplied otherListed
    exact longest other rival ((refines.owners other rival).mpr ⟨held, rivalApplied, otherListed⟩)
  · rintro ⟨peer, network, applied, listed, contains, longest⟩
    refine ⟨network, (refines.owners network key).mpr ⟨peer, applied, listed⟩, contains, ?_⟩
    intro other rival found
    obtain ⟨held, rivalApplied, otherListed⟩ := (refines.owners other rival).mp found
    exact longest rival held other rivalApplied otherListed

/-- After every run over a userspace tunnel that started without peers and routes, in which no two
peers that were desired at once shared a prefix: the cryptokey table holds exactly the prefixes of
the applied peers, each with its peer; the tracked routes are exactly those that are no default
ones; the table routes an address to the applied peer with the longest prefix that contains it; and
this peer carries what the tunnel originates, wherever some tracked route contains the address. -/
theorem cryptokeys_agree (localNode : LocalNode) (cache : DeviceCache)
    (tunnel : UserspaceTunnel Session) (events : List NodeEvent)
    (apart : PlansApart (driver protocol) events (start localNode cache {} tunnel.vacated)) :
    let node := run (driver protocol) events (start localNode cache {} tunnel.vacated)
    let applied := node.reconciler.applied
    (∀ network key, node.world.cryptokeys.owners.get? network = some key ↔
        ∃ peer, applied.get? key = some peer ∧ network ∈ peer.allowed) ∧
      (∀ network, network ∈ node.world.routes ↔
        ∃ key peer, applied.get? key = some peer ∧ network ∈ peer.allowed ∧
          network.length ≠ 0) ∧
      (∀ address key, node.world.cryptokeys.route? address = some key ↔
        HasLongest applied address key) ∧
      ∀ address key, (node.world.carrier? address).map Prod.fst = some key ↔
        (∃ network ∈ node.world.routes, network.contains address = true) ∧
          HasLongest applied address key := by
  intro node applied
  have refines : node.Refines := (Refines.initial localNode cache tunnel).run events apart
  refine ⟨refines.owners, ?routes, refines.route?_iff, ?carried⟩
  case routes =>
    intro network
    rw [refines.tracks.exactly, relies_iff_applied refines.owns refines.settled]
    simp only [TunnelPeer.mem_routes_iff, Network.isDefaultRoute, beq_eq_false_iff_ne]
    exact Iff.rfl
  case carried =>
    intro address key
    rw [carrier?_key_iff, refines.route?_iff]
    constructor
    · exact fun carried => ⟨carried.1, carried.2.1⟩
    · rintro ⟨tracked, longest⟩
      refine ⟨tracked, longest, ?_⟩
      obtain ⟨peer, _, found, _⟩ := longest
      rw [refines.present, Function.comp_apply, found]
      rfl

/-- A prefix moves from one device to another, which also offers a default route. The table gives
the prefix to the second device, which carries packets there, and tracks no default route. -/
theorem moved_prefix_agrees :
    let listing (last : UInt8) (advertised : List Network) : List PeerRecord :=
      [{ Sample.device "2.2.2.2:51820" with
        id := ⟨last.toBitVec.setWidth 128⟩
        publicKey := Sample.key last
        advertised }]
    let anywhere : Network := ⟨.v4 0, 0, Nat.zero_le _⟩
    let node := run (driver silent)
      [.tick (.ok (listing 1 [Sample.network 7])),
        .tick (.ok (listing 2 [Sample.network 7, anywhere]))]
      (start Sample.home {} {} (vacated {}))
    node.world.cryptokeys.owners.get? (Sample.network 7) = some (Sample.key 2) ∧
      (node.world.carrier? (Sample.network 7).address).map Prod.fst = some (Sample.key 2) ∧
      anywhere ∉ node.world.routes := by
  intro listing anywhere node
  obtain ⟨owners, routes, routed, carried⟩ := cryptokeys_agree silent Sample.home {} {}
    [.tick (.ok (listing 1 [Sample.network 7])),
      .tick (.ok (listing 2 [Sample.network 7, anywhere]))]
    ⟨fun _ => by decide +kernel, fun _ => by decide +kernel, trivial⟩
  refine ⟨?owned, ?carriedThere, ?untracked⟩
  case owned =>
    exact (owners _ _).mpr ⟨⟨Sample.key 2, ⟨.v4 0x02020202, 51820, 0⟩,
      [Sample.network 1, Sample.network 7, anywhere], none, .reflexive⟩, by decide +kernel,
      by decide⟩
  case carriedThere =>
    exact (carried _ _).mpr ⟨by decide +kernel, (routed _ _).mp (by decide +kernel)⟩
  case untracked =>
    intro tracked
    obtain ⟨_, _, _, _, proper⟩ := (routes anywhere).mp tracked
    exact proper rfl

end Node

end MeshNode
