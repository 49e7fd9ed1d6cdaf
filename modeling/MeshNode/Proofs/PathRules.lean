import MeshNode.Proofs.MutualPaths

/-!
# What a path rests on

A path is chosen by rules of which the first that applies decides. Here each method stands with
its own condition, and no two conditions hold together: the order of the rules is gone, and with
it the question which rule hides which. Through the relay go only two ordinary nodes, and only
because the local one is relay-only or because they are on different networks and one of them is
behind a symmetric NAT.

Whatever a record lists, and in whatever order, the method alone decides which of its endpoints
counts: the first on the device's own network or the first from a reflector. A direct path leads
to what this endpoint's text reads as, and a path is converging exactly if it reads as nothing.
Endpoints behind the first of their kind are never looked at.
-/

namespace MeshNode

/-! ## The endpoint of a method -/

/-- Whether a method dials the peer on a network that both share. -/
def PeeringMethod.onSite : PeeringMethod → Bool
  | .directLocal | .relayPeerDirectLocal | .relaySelfDirectLocal => true
  | .relayPeer | .relaySelf | .viaRelay | .reflexive => false

namespace PeerRecord

/-- An endpoint is the first of those that were learned on the device's own network, or the first
of the others. -/
def ListsFirst (record : PeerRecord) (onSite : Bool) (endpoint : Endpoint) : Prop :=
  ∃ before behind, record.endpoints = before ++ endpoint :: behind ∧
    endpoint.source.isLocal = onSite ∧ ∀ earlier ∈ before, earlier.source.isLocal ≠ onSite

/-- Where a method dials the device: the text of the first endpoint of the method's kind reads as
this address. -/
def DialledAt (record : PeerRecord) (method : PeeringMethod) (socket : SocketAddress) : Prop :=
  ∃ endpoint, record.ListsFirst method.onSite endpoint ∧
    SocketAddress.parseEndpoint? endpoint.address = some socket

theorem localEndpoint?_eq_some_iff (record : PeerRecord) (endpoint : Endpoint) :
    record.localEndpoint? = some endpoint ↔ record.ListsFirst true endpoint := by
  simp only [localEndpoint?, List.find?_eq_some_iff_append, ListsFirst]
  constructor
  · rintro ⟨kind, before, behind, listed, others⟩
    exact ⟨before, behind, listed, kind, by simpa using others⟩
  · rintro ⟨before, behind, listed, kind, others⟩
    exact ⟨kind, before, behind, listed, by simpa using others⟩

theorem reflexiveEndpoint?_eq_some_iff (record : PeerRecord) (endpoint : Endpoint) :
    record.reflexiveEndpoint? = some endpoint ↔ record.ListsFirst false endpoint := by
  simp only [reflexiveEndpoint?, List.find?_eq_some_iff_append, ListsFirst]
  constructor
  · rintro ⟨kind, before, behind, listed, others⟩
    exact ⟨before, behind, listed, by simpa using kind, by simpa using others⟩
  · rintro ⟨before, behind, listed, kind, others⟩
    exact ⟨by simpa using kind, before, behind, listed, by simpa using others⟩

end PeerRecord

/-- An address that can be dialled has a port and is specified. -/
theorem SocketAddress.dialable_of_parseEndpoint? (text : String) (socket : SocketAddress)
    (read : parseEndpoint? text = some socket) :
    socket.port ≠ 0 ∧ socket.address.isUnspecified = false := by
  unfold parseEndpoint? at read
  split at read
  · cases read
  · split at read
    · cases read
    · rename_i finished
      obtain ⟨port, specified⟩ := not_or.mp finished
      cases read
      exact ⟨port, Bool.eq_false_iff.mpr specified⟩

namespace PeerPath

/-- The address that a method dials. -/
def socketFor? (record : PeerRecord) (method : PeeringMethod) : Option SocketAddress :=
  if method.onSite then localSocket? record else reflexiveSocket? record

theorem socketFor?_eq_some_iff (record : PeerRecord) (method : PeeringMethod)
    (socket : SocketAddress) :
    socketFor? record method = some socket ↔ record.DialledAt method socket := by
  unfold socketFor? PeerRecord.DialledAt
  cases method.onSite
  · simp [reflexiveSocket?, Option.bind_eq_some_iff, PeerRecord.reflexiveEndpoint?_eq_some_iff,
      Endpoint.socket?]
  · simp [localSocket?, Option.bind_eq_some_iff, PeerRecord.localEndpoint?_eq_some_iff,
      Endpoint.socket?]

/-! ## The rules without their order -/

/-- The peer's reflexive address is known and is the local node's. -/
def SameSite (node : LocalNode) (record : PeerRecord) : Prop :=
  ∃ socket, record.DialledAt .reflexive socket ∧ socket.address = node.reflexive.address

/-- Neither side is a relay. -/
def Ordinary (node : LocalNode) (record : PeerRecord) : Prop :=
  record.relay = false ∧ node.relay = false

/-- A symmetric NAT stands in front of one of the two. -/
def Hidden (node : LocalNode) (record : PeerRecord) : Prop :=
  node.symmetricNat = true ∨ record.symmetricNat = true

end PeerPath

open PeerPath in
/-- When a method fits: the condition under which it is the one to use. -/
def PeeringMethod.Fits (node : LocalNode) (record : PeerRecord) : PeeringMethod → Prop
  | .directLocal => SameSite node record ∧ Ordinary node record ∧ node.relayOnly = false
  | .relayPeerDirectLocal => SameSite node record ∧ record.relay = true
  | .relaySelfDirectLocal => SameSite node record ∧ record.relay = false ∧ node.relay = true
  | .relayPeer => ¬SameSite node record ∧ record.relay = true
  | .relaySelf => ¬SameSite node record ∧ record.relay = false ∧ node.relay = true
  | .viaRelay =>
    Ordinary node record ∧
      (node.relayOnly = true ∨ ¬SameSite node record ∧ Hidden node record)
  | .reflexive =>
    ¬SameSite node record ∧ Ordinary node record ∧ node.relayOnly = false ∧
      ¬Hidden node record

namespace PeerPath

/-- No two methods fit at once. -/
theorem fits_unique (node : LocalNode) (record : PeerRecord) (one other : PeeringMethod)
    (fits : one.Fits node record) (otherFits : other.Fits node record) : one = other := by
  cases one <;> cases other <;> simp_all [PeeringMethod.Fits, Ordinary]

theorem sameNetwork_iff (node : LocalNode) (record : PeerRecord) :
    sameNetwork node record = true ↔ SameSite node record := by
  simp only [SameSite, ← socketFor?_eq_some_iff, socketFor?, PeeringMethod.onSite]
  unfold sameNetwork
  cases reflexiveSocket? record <;> simp

/-- The peer is dialled by the method that fits, or the relay fits and its health decides. -/
theorem select_fits (node : LocalNode) (record : PeerRecord) (relayHealthy : Bool) :
    (∃ method : PeeringMethod, method.Fits node record ∧ method ≠ .viaRelay ∧
        select node record relayHealthy = dial node record method (socketFor? record method)) ∨
      PeeringMethod.viaRelay.Fits node record ∧
        select node record relayHealthy = indirect record relayHealthy := by
  have sited := sameNetwork_iff node record
  unfold select
  split
  case isTrue near =>
    -- on one network the flags of both sides name the method
    have same : SameSite node record := sited.mp (by simp_all)
    unfold localMethod
    split
    case isTrue relay => exact Or.inl ⟨.relayPeerDirectLocal, ⟨same, relay⟩, nofun, rfl⟩
    case isFalse noRelay =>
      have unrelayed : record.relay = false := Bool.eq_false_iff.mpr noRelay
      split
      case isTrue relay =>
        exact Or.inl ⟨.relaySelfDirectLocal, ⟨same, unrelayed, relay⟩, nofun, rfl⟩
      case isFalse ordinary =>
        have dialling : node.relayOnly = false := by simp_all
        have neither : Ordinary node record := ⟨unrelayed, Bool.eq_false_iff.mpr ordinary⟩
        exact Or.inl ⟨.directLocal, ⟨same, neither, dialling⟩, nofun, rfl⟩
  case isFalse far =>
    split
    case isTrue relay =>
      have apart : ¬SameSite node record := fun same => far (by simp [sited.mpr same, relay])
      exact Or.inl ⟨.relayPeer, ⟨apart, relay⟩, nofun, rfl⟩
    case isFalse noRelay =>
      have unrelayed : record.relay = false := Bool.eq_false_iff.mpr noRelay
      split
      case isTrue relay =>
        have apart : ¬SameSite node record := fun same => far (by simp [sited.mpr same, relay])
        exact Or.inl ⟨.relaySelf, ⟨apart, unrelayed, relay⟩, nofun, rfl⟩
      case isFalse ordinary =>
        have neither : Ordinary node record := ⟨unrelayed, Bool.eq_false_iff.mpr ordinary⟩
        have apart (dialling : node.relayOnly = false) : ¬SameSite node record :=
          fun same => far (by simp [sited.mpr same, dialling])
        split
        case isTrue indirectly =>
          refine Or.inr ⟨⟨neither, ?_⟩, rfl⟩
          by_cases secluded : node.relayOnly = true
          · exact Or.inl secluded
          · have hidden : Hidden node record := by simpa [secluded, Hidden] using indirectly
            exact Or.inr ⟨apart (Bool.eq_false_iff.mpr secluded), hidden⟩
        case isFalse openly =>
          have clear : node.relayOnly = false ∧ ¬Hidden node record := by
            simpa [Hidden, and_assoc] using openly
          exact Or.inl ⟨.reflexive, ⟨apart clear.1, neither, clear⟩, nofun, rfl⟩

theorem method?_dial (node : LocalNode) (record : PeerRecord) (method : PeeringMethod)
    (socket : Option SocketAddress) :
    (dial node record method socket).method? = some method := by
  cases socket <;> rfl

/-! ## What each path says -/

section Select

variable (node : LocalNode) (record : PeerRecord) (relayHealthy : Bool)

/-- A method is used exactly if it fits, and the relay only where one is healthy. -/
theorem method?_select_iff (method : PeeringMethod) :
    (select node record relayHealthy).method? = some method ↔
      method.Fits node record ∧ (method = .viaRelay → relayHealthy = true) := by
  rcases select_fits node record relayHealthy with ⟨used, fits, direct, dialled⟩ | ⟨fits, relayed⟩
  · rw [dialled, method?_dial, Option.some.injEq]
    constructor
    · rintro rfl
      exact ⟨fits, fun relay => absurd relay direct⟩
    · rintro ⟨otherFits, _⟩
      exact fits_unique node record used method fits otherFits
  · rw [relayed]
    cases relayHealthy with
    | false =>
      refine iff_of_false nofun ?_
      rintro ⟨otherFits, healthy⟩
      cases healthy (fits_unique node record method .viaRelay otherFits fits)
    | true =>
      have named : some PeeringMethod.viaRelay = some method ↔ method = .viaRelay := by
        rw [Option.some.injEq, eq_comm]
      refine named.trans ⟨?_, ?_⟩
      · rintro rfl
        exact ⟨fits, fun _ => rfl⟩
      · rintro ⟨otherFits, _⟩
        exact fits_unique node record method .viaRelay otherFits fits

/-- A peer is unreachable exactly if the relay fits and none is healthy. -/
theorem select_eq_unreachable_iff :
    select node record relayHealthy = .unreachable ↔
      PeeringMethod.viaRelay.Fits node record ∧ relayHealthy = false := by
  rcases select_fits node record relayHealthy with ⟨used, fits, direct, dialled⟩ | ⟨fits, relayed⟩
  · constructor
    · intro unreachable
      have named := method?_dial node record used (socketFor? record used)
      rw [← dialled, unreachable] at named
      cases named
    · rintro ⟨relayFits, _⟩
      exact absurd (fits_unique node record used .viaRelay fits relayFits) direct
  · rw [relayed]
    cases relayHealthy <;> simp [indirect, fits]

/-- A direct path leads to where its method dials the device. -/
theorem dialledAt_of_select_direct (peer : TunnelPeer)
    (selected : select node record relayHealthy = .direct peer) :
    record.DialledAt peer.method peer.endpoint := by
  rcases select_fits node record relayHealthy with ⟨used, _, _, dialled⟩ | ⟨_, relayed⟩
  · rw [dialled] at selected
    cases found : socketFor? record used with
    | none =>
      rw [found] at selected
      cases selected
    | some socket =>
      rw [found] at selected
      cases selected
      exact (socketFor?_eq_some_iff record used socket).mp found
  · rw [relayed] at selected
    cases relayHealthy <;> cases selected

/-- A path that is not through the relay waits exactly if its method dials the device nowhere. -/
theorem select_eq_converging_iff (method : PeeringMethod)
    (named : (select node record relayHealthy).method? = some method)
    (direct : ∀ child, select node record relayHealthy ≠ .viaRelay child) :
    select node record relayHealthy = .converging method ↔
      ¬∃ socket, record.DialledAt method socket := by
  rcases select_fits node record relayHealthy with ⟨used, _, _, dialled⟩ | ⟨_, relayed⟩
  · rw [dialled, method?_dial] at named
    obtain rfl : used = method := Option.some.inj named
    simp only [dialled, ← socketFor?_eq_some_iff]
    cases socketFor? record used <;> simp [dial]
  · cases relayHealthy with
    | false =>
      rw [relayed] at named
      cases named
    | true => exact absurd relayed (direct record.advertised)

end Select

/-- For every local node, every record and either verdict on the relays. The endpoint of a direct
path can be dialled and is the one that the path's method names. A path that is not through the
relay waits exactly if the record names no such endpoint. Each method is used exactly if it fits,
the relay only where one is healthy, and a peer is unreachable exactly if the relay fits and none
is. -/
theorem select_sound (node : LocalNode) (record : PeerRecord) (relayHealthy : Bool) :
    let path := select node record relayHealthy
    (∀ peer, path = .direct peer →
      peer.endpoint.port ≠ 0 ∧ peer.endpoint.address.isUnspecified = false ∧
        record.DialledAt peer.method peer.endpoint) ∧
    (∀ method, path.method? = some method → (∀ child, path ≠ .viaRelay child) →
      (path = .converging method ↔ ¬∃ socket, record.DialledAt method socket)) ∧
    (∀ method, path.method? = some method ↔
      method.Fits node record ∧ (method = .viaRelay → relayHealthy = true)) ∧
    (path = .unreachable ↔
      PeeringMethod.viaRelay.Fits node record ∧ relayHealthy = false) := by
  intro path
  refine ⟨?_, ?_, method?_select_iff node record relayHealthy,
    select_eq_unreachable_iff node record relayHealthy⟩
  · intro peer selected
    have dials := dialledAt_of_select_direct node record relayHealthy peer selected
    obtain ⟨endpoint, _, read⟩ := id dials
    obtain ⟨port, specified⟩ := SocketAddress.dialable_of_parseEndpoint? _ _ read
    exact ⟨port, specified, dials⟩
  · intro method named direct
    exact select_eq_converging_iff node record relayHealthy method named direct

end PeerPath

namespace Sample

/-- A device that lists an unfinished endpoint before each finished one. -/
def scattered : PeerRecord :=
  { id := ⟨1⟩
    publicKey := key 1
    endpoints := [⟨.reflector "first", "1.1.1.1"⟩, ⟨.localNetwork, "192.168.1.2:0"⟩,
      ⟨.reflector "second", "1.1.1.1:40000"⟩, ⟨.localNetwork, "192.168.1.2:51820"⟩]
    organization := ⟨0⟩ }

end Sample

namespace PeerPath

open Sample

/-- A neighbour is dialled on the shared network. A device whose unfinished endpoints stand first
is not seen to be a neighbour and not dialled at the finished ones. A relay-only node goes through
the relay to a neighbour, or nowhere. -/
theorem select_sound_samples :
    (∃ peer, select home (published neighbour "1.1.1.1:40000") false = .direct peer ∧
      PeeringMethod.directLocal.Fits home (published neighbour "1.1.1.1:40000") ∧
      peer.endpoint.port ≠ 0 ∧
      (published neighbour "1.1.1.1:40000").DialledAt .directLocal peer.endpoint) ∧
    select home scattered true = .converging .reflexive ∧
      (¬∃ socket, scattered.DialledAt .reflexive socket) ∧
    (select secluded (published neighbour "1.1.1.1:40000") true).method? = some .viaRelay ∧
    select secluded (published neighbour "1.1.1.1:40000") false = .unreachable := by
  have near : select home (published neighbour "1.1.1.1:40000") false =
      .direct ⟨key 2, ⟨.v4 0xC0A80102, 51820, 0⟩, [], none, .directLocal⟩ := by
    decide +kernel
  have waiting : select home scattered true = .converging .reflexive := by
    decide +kernel
  have through : (select secluded (published neighbour "1.1.1.1:40000") true).method? =
      some .viaRelay := by
    decide +kernel
  obtain ⟨dialled, _, fitting, _⟩ :=
    select_sound home (published neighbour "1.1.1.1:40000") false
  obtain ⟨port, _, dials⟩ := dialled _ near
  obtain ⟨fits, _⟩ := (fitting .directLocal).mp (by rw [near]; rfl)
  refine ⟨⟨_, near, fits, port, dials⟩, waiting, ?_, through, ?_⟩
  · obtain ⟨_, waits, _⟩ := select_sound home scattered true
    exact (waits .reflexive (by rw [waiting]; rfl) (by rw [waiting]; nofun)).mp waiting
  · obtain ⟨_, _, relayFitting, _⟩ :=
      select_sound secluded (published neighbour "1.1.1.1:40000") true
    obtain ⟨_, _, _, unreachable⟩ :=
      select_sound secluded (published neighbour "1.1.1.1:40000") false
    exact unreachable.mpr ⟨((relayFitting .viaRelay).mp through).1, rfl⟩

end PeerPath

end MeshNode
