import MeshNode.Proofs.Runs

/-!
# Paths in both directions

Two nodes choose their paths to each other apart: each looks at itself and at what the
other has published. The network that they share, the relays among them and the
symmetric NATs in front of them look alike from both sides, so both dial or neither
does, and what neither dials goes through the relay from both sides or not at all.

Only that a node is relay-only is not published; its peers are shown a symmetric NAT
instead. On different networks this keeps them from dialling as well. On a network of
their own it does not, since the NAT is not crossed there: a relay-only node routes an
ordinary neighbour through the relay, and the neighbour dials it directly. Two nodes
disagree in this case and in no other.
-/

namespace MeshNode

/-- What the configuration lets a node be: a relay is not relay-only, and a relay-only node passes
for one behind a symmetric NAT. -/
structure LocalNode.Configured (node : LocalNode) : Prop where
  relayDials : node.relay = true → node.relayOnly = false
  relayOnlyHides : node.relayOnly = true → node.symmetricNat = true

/-- A record publishes a node: its flags, its reflexive address, and an endpoint on its own
network that can be dialled. -/
structure PeerRecord.Publishes (record : PeerRecord) (node : LocalNode) : Prop where
  relay : record.relay = node.relay
  symmetricNat : record.symmetricNat = node.symmetricNat
  neighbourly : (PeerPath.localSocket? record).isSome = true
  reflexive : PeerPath.reflexiveSocket? record = some node.reflexive

namespace LocalNode

/-- Two nodes that other networks see at one address. -/
def Neighbours (one other : LocalNode) : Prop :=
  one.reflexive.address = other.reflexive.address

/-- A node dials another unless both are ordinary and it is relay-only or, on different networks,
a symmetric NAT stands in front of one of them. -/
def Dials (node other : LocalNode) : Prop :=
  node.relay = true ∨ other.relay = true ∨
    (node.relayOnly = false ∧
      (node.Neighbours other ∨ (node.symmetricNat = false ∧ other.symmetricNat = false)))

/-- Two ordinary neighbours of which just one is relay-only. -/
def AtOdds (one other : LocalNode) : Prop :=
  one.Neighbours other ∧ one.relay = false ∧ other.relay = false ∧
    one.relayOnly ≠ other.relayOnly

/-- Configured nodes dial each other or do not, unless they are at odds. -/
theorem dials_comm_iff (one other : LocalNode) (oneConfigured : one.Configured)
    (otherConfigured : other.Configured) :
    (one.Dials other ↔ other.Dials one) ↔ ¬one.AtOdds other := by
  obtain ⟨_, oneHides⟩ := oneConfigured
  obtain ⟨_, otherHides⟩ := otherConfigured
  have alike : other.Neighbours one ↔ one.Neighbours other := eq_comm
  simp only [Dials, AtOdds, alike]
  by_cases neighbours : one.Neighbours other <;> grind

/-- Of two nodes at odds the relay-only one does not dial, and the other one does. -/
theorem AtOdds.dials {one other : LocalNode} (atOdds : one.AtOdds other)
    (relayOnly : one.relayOnly = true) : ¬one.Dials other ∧ other.Dials one := by
  obtain ⟨neighbours, ordinary, otherOrdinary, differ⟩ := atOdds
  have otherDials : other.relayOnly = false := by
    rw [relayOnly] at differ
    simpa using differ.symm
  constructor
  · rintro (relay | relay | ⟨dialling, _⟩)
    · rw [ordinary] at relay
      cases relay
    · rw [otherOrdinary] at relay
      cases relay
    · rw [relayOnly] at dialling
      cases dialling
  · exact Or.inr (Or.inr ⟨otherDials, Or.inl neighbours.symm⟩)

end LocalNode

namespace PeerPath

/-- The path without a direct one: through a healthy relay, or none. -/
def indirect (record : PeerRecord) (relayHealthy : Bool) : PeerPath :=
  if relayHealthy then .viaRelay record.advertised else .unreachable

/-- Two paths of one kind. -/
structure Matches (one other : PeerPath) : Prop where
  direct : (∃ peer, one = .direct peer) ↔ ∃ peer, other = .direct peer
  viaRelay : (∃ child, one = .viaRelay child) ↔ ∃ child, other = .viaRelay child
  unreachable : one = .unreachable ↔ other = .unreachable

theorem dial_of_some (node : LocalNode) (record : PeerRecord) (method : PeeringMethod)
    {socket : Option SocketAddress} (finished : socket.isSome = true) :
    ∃ peer, dial node record method socket = .direct peer := by
  obtain ⟨endpoint, rfl⟩ := Option.isSome_iff_exists.mp finished
  exact ⟨_, rfl⟩

theorem sameNetwork_of_publishes (node other : LocalNode) (record : PeerRecord)
    (publishes : record.Publishes other) :
    sameNetwork node record = true ↔ node.Neighbours other := by
  simp only [sameNetwork, publishes.reflexive, beq_iff_eq, LocalNode.Neighbours]
  exact eq_comm

/-- To a node that has published all its endpoints the path is direct exactly if the node is to be
dialled, and indirect otherwise. -/
theorem select_of_publishes (node other : LocalNode) (record : PeerRecord)
    (publishes : record.Publishes other) (relayHealthy : Bool) :
    (node.Dials other → ∃ peer, select node record relayHealthy = .direct peer) ∧
      (¬node.Dials other → select node record relayHealthy = indirect record relayHealthy) := by
  have reflexive : (reflexiveSocket? record).isSome = true := by
    rw [publishes.reflexive]
    rfl
  have neighbours := sameNetwork_of_publishes node other record publishes
  simp only [LocalNode.Dials, ← neighbours, ← publishes.relay, ← publishes.symmetricNat]
  unfold select
  split
  case isTrue shared =>
    refine ⟨fun _ => dial_of_some _ _ _ publishes.neighbourly, fun refused => absurd ?_ refused⟩
    grind
  case isFalse apart =>
    split
    case isTrue => exact ⟨fun _ => dial_of_some _ _ _ reflexive, by grind⟩
    case isFalse =>
      split
      case isTrue => exact ⟨fun _ => dial_of_some _ _ _ reflexive, by grind⟩
      case isFalse =>
        split
        case isTrue hidden => exact ⟨by grind, fun _ => rfl⟩
        case isFalse => exact ⟨fun _ => dial_of_some _ _ _ reflexive, by grind⟩

/-- A direct path matches no indirect one. -/
theorem not_matches_indirect {path : PeerPath} (direct : ∃ peer, path = .direct peer)
    (record : PeerRecord) (relayHealthy : Bool) : ¬Matches path (indirect record relayHealthy) := by
  intro same
  obtain ⟨peer, impossible⟩ := same.direct.mp direct
  cases relayHealthy <;> cases impossible

theorem matches_direct {one other : PeerPath} (direct : ∃ peer, one = .direct peer)
    (otherDirect : ∃ peer, other = .direct peer) : Matches one other := by
  obtain ⟨peer, rfl⟩ := direct
  obtain ⟨otherPeer, rfl⟩ := otherDirect
  constructor <;> simp

theorem matches_indirect (record other : PeerRecord) (relayHealthy : Bool) :
    Matches (indirect record relayHealthy) (indirect other relayHealthy) := by
  constructor <;> cases relayHealthy <;> simp [indirect]

theorem Matches.symm {one other : PeerPath} (same : Matches one other) : Matches other one :=
  ⟨same.direct.symm, same.viaRelay.symm, same.unreachable.symm⟩

/-- For any two configured nodes that have published themselves, and one verdict on the relays:
the paths that they choose to each other are of one kind unless the nodes are ordinary neighbours
of which just one is relay-only. Of such two the relay-only one goes through the relay, or
nowhere, while the other dials it. -/
theorem mutual_paths_match (one other : LocalNode) (oneConfigured : one.Configured)
    (otherConfigured : other.Configured) (oneRecord otherRecord : PeerRecord)
    (onePublishes : oneRecord.Publishes one) (otherPublishes : otherRecord.Publishes other)
    (relayHealthy : Bool) :
    (Matches (select one otherRecord relayHealthy) (select other oneRecord relayHealthy) ↔
        ¬one.AtOdds other) ∧
      (one.AtOdds other → one.relayOnly = true →
        select one otherRecord relayHealthy = indirect otherRecord relayHealthy ∧
          ∃ peer, select other oneRecord relayHealthy = .direct peer) := by
  obtain ⟨there, thereIndirect⟩ :=
    select_of_publishes one other otherRecord otherPublishes relayHealthy
  obtain ⟨back, backIndirect⟩ :=
    select_of_publishes other one oneRecord onePublishes relayHealthy
  constructor
  · rw [← LocalNode.dials_comm_iff one other oneConfigured otherConfigured]
    by_cases dials : one.Dials other <;> by_cases dialled : other.Dials one
    · exact iff_of_true (matches_direct (there dials) (back dialled))
        (iff_of_true dials dialled)
    · rw [backIndirect dialled]
      exact iff_of_false (not_matches_indirect (there dials) _ _)
        fun alike => dialled (alike.mp dials)
    · rw [thereIndirect dials]
      exact iff_of_false (fun same => not_matches_indirect (back dialled) _ _ same.symm)
        fun alike => dials (alike.mpr dialled)
    · rw [thereIndirect dials, backIndirect dialled]
      exact iff_of_true (matches_indirect _ _ _) (iff_of_false dials dialled)
  · intro atOdds relayOnly
    obtain ⟨silent, dials⟩ := atOdds.dials relayOnly
    exact ⟨thereIndirect silent, back dials⟩

end PeerPath

/-! ## A relay-only node and two ordinary ones -/

namespace Sample

/-- What a node publishes that a reflector sees at a given address. -/
def published (node : LocalNode) (mapped : String) : PeerRecord :=
  { id := ⟨1⟩
    publicKey := node.publicKey
    endpoints := [⟨.localNetwork, "192.168.1.2:51820"⟩, ⟨.reflector "", mapped⟩]
    relay := node.relay
    symmetricNat := node.symmetricNat
    organization := ⟨0⟩ }

theorem published_publishes (node : LocalNode) (mapped : String)
    (seen : SocketAddress.parseEndpoint? mapped = some node.reflexive) :
    (published node mapped).Publishes node := by
  have near : (SocketAddress.parseEndpoint? "192.168.1.2:51820").isSome = true := by
    decide +kernel
  refine ⟨rfl, rfl, ?_, ?_⟩
  · simpa [PeerPath.localSocket?, PeerRecord.localEndpoint?, published, EndpointSource.isLocal,
      Endpoint.socket?] using near
  · simpa [PeerPath.reflexiveSocket?, PeerRecord.reflexiveEndpoint?, published,
      EndpointSource.isLocal, Endpoint.socket?] using seen

/-- A relay-only node at home. -/
def secluded : LocalNode := { home with symmetricNat := true, relayOnly := true }

/-- An ordinary node on the same network. -/
def neighbour : LocalNode :=
  { home with publicKey := key 2, reflexive := ⟨.v4 0x01010101, 40000, 0⟩ }

/-- An ordinary node on another network. -/
def stranger : LocalNode :=
  { home with publicKey := key 3, reflexive := ⟨.v4 0x02020202, 51820, 0⟩ }

theorem secluded_configured : secluded.Configured := ⟨nofun, fun _ => rfl⟩

end Sample

namespace PeerPath

open Sample

/-- On different networks a relay-only node and an ordinary one both go through the relay. -/
theorem distant_paths_match :
    secluded.Configured ∧ stranger.Configured ∧
      (published secluded "1.1.1.1:51820").Publishes secluded ∧
      (published stranger "2.2.2.2:51820").Publishes stranger ∧
      Matches (select secluded (published stranger "2.2.2.2:51820") true)
        (select stranger (published secluded "1.1.1.1:51820") true) := by
  have strangerConfigured : stranger.Configured := ⟨nofun, nofun⟩
  have hiddenPublishes := published_publishes secluded "1.1.1.1:51820" (by decide +kernel)
  have strangerPublishes := published_publishes stranger "2.2.2.2:51820" (by decide +kernel)
  have apart : ¬secluded.AtOdds stranger := fun atOdds =>
    absurd atOdds.1 (by unfold LocalNode.Neighbours; decide)
  exact ⟨secluded_configured, strangerConfigured, hiddenPublishes, strangerPublishes,
    (mutual_paths_match secluded stranger secluded_configured strangerConfigured _ _ hiddenPublishes
      strangerPublishes true).1.mpr apart⟩

/-- On one network they disagree: the relay-only node goes through the relay to its neighbour,
which dials it at the endpoint that it published there. -/
theorem hidden_neighbour_dialled :
    secluded.Configured ∧ neighbour.Configured ∧
      (published secluded "1.1.1.1:51820").Publishes secluded ∧
      (published neighbour "1.1.1.1:40000").Publishes neighbour ∧
      select secluded (published neighbour "1.1.1.1:40000") true = .viaRelay [] ∧
      (∃ peer, select neighbour (published secluded "1.1.1.1:51820") true = .direct peer ∧
        peer.method = .directLocal) ∧
      ¬Matches (select secluded (published neighbour "1.1.1.1:40000") true)
        (select neighbour (published secluded "1.1.1.1:51820") true) := by
  have goes : select secluded (published neighbour "1.1.1.1:40000") true = .viaRelay [] := by
    decide +kernel
  have dialled : select neighbour (published secluded "1.1.1.1:51820") true =
      .direct ⟨key 0, ⟨.v4 0xC0A80102, 51820, 0⟩, [], none, .directLocal⟩ := by
    decide +kernel
  refine ⟨secluded_configured, ⟨nofun, nofun⟩, ?_, ?_, goes,
    ⟨_, dialled, rfl⟩, fun same => ?_⟩
  · exact published_publishes secluded "1.1.1.1:51820" (by decide +kernel)
  · exact published_publishes neighbour "1.1.1.1:40000" (by decide +kernel)
  · obtain ⟨child, impossible⟩ := same.viaRelay.mp ⟨[], goes⟩
    rw [dialled] at impossible
    cases impossible

end PeerPath

end MeshNode
