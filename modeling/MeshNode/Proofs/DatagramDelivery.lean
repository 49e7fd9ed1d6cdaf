import MeshNode.Proofs.Runs
import MeshNode.Proofs.Tables
import MeshNode.Tunnel.Userspace

/-!
# Where a datagram goes

A datagram that comes in belongs to the peer whose session accepts it. The tunnel looks first for a
peer whose endpoint is where the datagram came from, and asks every session only if there is none.
Asking moves sessions on and leaves the endpoints alone; a session that is asked later stands as it
did before, because no peer is asked twice.

The main statement says when a datagram is delivered, and what becomes of the endpoints. A delivery
goes to a peer whose session accepts the datagram; its endpoint is the source from then on, and no
other endpoint moves. Where nothing is delivered, no endpoint moves at all. Nothing is delivered if
no session accepts; and also if the first peer whose endpoint is the source refuses, whoever else
would accept. So a peer that roams to an address under which another one is still known is not
heard.
-/

namespace MeshNode.UserspaceTunnel

variable {Session World : Type} (protocol : SessionProtocol Session) (socket : DatagramSocket World)

/-! ## What a session makes of a datagram -/

/-- Where a peer's datagrams go. -/
def endpointOf (tunnel : UserspaceTunnel Session) (key : PublicKey) : Option SocketAddress :=
  (tunnel.peers.get? key).map PeerSession.endpoint

/-- What the session of a peer makes of a datagram; absent where the peer is unknown or refuses. -/
def verdict? (source : SocketAddress) (content : Bytes) (tunnel : UserspaceTunnel Session)
    (key : PublicKey) : Option Decapsulation :=
  (tunnel.peers.get? key).bind fun peer =>
    (protocol.decapsulate source.address content peer.session).1

/-- The first peer whose endpoint is an address. -/
def holder? (tunnel : UserspaceTunnel Session) (source : SocketAddress) : Option PublicKey :=
  (tunnel.peers.entries.find? fun entry => entry.2.endpoint = source).map Prod.fst

/-- The first of some peers whose session accepts a datagram, and what it makes of it. -/
def firstTaker? (source : SocketAddress) (content : Bytes) (tunnel : UserspaceTunnel Session)
    (keys : List PublicKey) : Option (PublicKey × Decapsulation) :=
  keys.findSome? fun key => (tunnel.verdict? protocol source content key).map (key, ·)

/-- What is done with an accepted datagram: the peer's endpoint moves, the answers go where the
datagram came from, and the packet in it is taken. -/
def deliver (source : SocketAddress) (key : PublicKey) (accepted : Decapsulation)
    (tunnel : UserspaceTunnel Session) (world : World) :
    List UInt16 × UserspaceTunnel Session × World :=
  let tunnel := tunnel.roam key source
  let world := sendAll socket source accepted.answers world
  match accepted.packet with
  | none => ([], tunnel, world)
  | some packet => tunnel.takePacket protocol socket key packet world

section Sessions

variable (source : SocketAddress) (content : Bytes) (tunnel : UserspaceTunnel Session)

theorem firstTaker?_cons (key : PublicKey) (rest : List PublicKey) :
    tunnel.firstTaker? protocol source content (key :: rest) =
      match tunnel.verdict? protocol source content key with
      | some accepted => some (key, accepted)
      | none => tunnel.firstTaker? protocol source content rest := by
  rw [firstTaker?, List.findSome?_cons]
  cases tunnel.verdict? protocol source content key <;> rfl

/-- A session that moves on leaves every endpoint where it is. -/
theorem endpointOf_keepSession (key other : PublicKey) (peer : PeerSession Session)
    (session : Session) (known : tunnel.peers.get? key = some peer) :
    (tunnel.keepSession key peer session).endpointOf other = tunnel.endpointOf other := by
  rw [endpointOf, keepSession, Table.get?_insert, endpointOf]
  split
  · rename_i same
    rw [same, known]
    rfl
  · rfl

/-- A session that moves on changes no other peer's verdict. -/
theorem verdict?_keepSession (key other : PublicKey) (peer : PeerSession Session)
    (session : Session) (different : other ≠ key) :
    (tunnel.keepSession key peer session).verdict? protocol source content other =
      tunnel.verdict? protocol source content other := by
  rw [verdict?, keepSession, Table.get?_insert_other _ _ _ _ different, verdict?]

/-- A session that moves on does not change who is first among other peers. -/
theorem firstTaker?_keepSession (key : PublicKey) (peer : PeerSession Session) (session : Session)
    (keys : List PublicKey) (fresh : key ∉ keys) :
    (tunnel.keepSession key peer session).firstTaker? protocol source content keys =
      tunnel.firstTaker? protocol source content keys := by
  induction keys with
  | nil => rfl
  | cons other rest inductionHypothesis =>
    obtain ⟨different, later⟩ := List.ne_and_not_mem_of_not_mem_cons fresh
    rw [firstTaker?_cons, firstTaker?_cons, inductionHypothesis later,
      verdict?_keepSession protocol source content tunnel key other peer session different.symm]

/-- The endpoints do not depend on who is asked. -/
theorem endpointOf_offer (keys : List PublicKey) (other : PublicKey) :
    (tunnel.offer protocol source content keys).2.endpointOf other = tunnel.endpointOf other := by
  induction keys generalizing tunnel with
  | nil => rfl
  | cons key rest inductionHypothesis =>
    rw [offer]
    split
    · exact inductionHypothesis tunnel
    · rename_i peer known
      have kept := endpointOf_keepSession tunnel key other peer
        (protocol.decapsulate source.address content peer.session).2 known
      dsimp only
      split
      · exact kept
      · rw [inductionHypothesis, kept]

/-- Of several peers, each asked once, the first that accepts takes the datagram. -/
theorem offer_eq_firstTaker? (keys : List PublicKey) (apart : keys.Nodup) :
    (tunnel.offer protocol source content keys).1 =
      tunnel.firstTaker? protocol source content keys := by
  induction keys generalizing tunnel with
  | nil => rfl
  | cons key rest inductionHypothesis =>
    obtain ⟨once, others⟩ := List.nodup_cons.mp apart
    rw [offer, firstTaker?_cons]
    split
    · rename_i unknown
      have silent : tunnel.verdict? protocol source content key = none := by
        rw [verdict?, unknown, Option.bind_none]
      rw [silent]
      exact inductionHypothesis tunnel others
    · rename_i peer known
      have said : tunnel.verdict? protocol source content key =
          (protocol.decapsulate source.address content peer.session).1 := by
        rw [verdict?, known, Option.bind_some]
      rw [said]
      dsimp only
      split
      · rename_i accepted accepts
        rw [accepts]
      · rename_i refuses
        rw [refuses, inductionHypothesis _ others, firstTaker?_keepSession _ _ _ _ _ _ _ _ once]

/-- Who takes a datagram accepts it. -/
theorem verdict?_of_firstTaker? (keys : List PublicKey) (key : PublicKey)
    (accepted : Decapsulation)
    (taken : tunnel.firstTaker? protocol source content keys = some (key, accepted)) :
    tunnel.verdict? protocol source content key = some accepted := by
  obtain ⟨taker, -, said⟩ := List.exists_of_findSome?_eq_some taken
  obtain ⟨verdict, accepts, pair⟩ := Option.map_eq_some_iff.mp said
  obtain ⟨rfl, rfl⟩ := Prod.mk.inj pair
  exact accepts

/-- Nobody takes a datagram that all of them refuse. -/
theorem firstTaker?_eq_none_iff (keys : List PublicKey) :
    tunnel.firstTaker? protocol source content keys = none ↔
      ∀ key ∈ keys, tunnel.verdict? protocol source content key = none := by
  simp [firstTaker?, List.findSome?_eq_none_iff]

/-- A peer that accepts is configured. -/
theorem mem_keys_of_verdict? (key : PublicKey) (accepted : Decapsulation)
    (accepts : tunnel.verdict? protocol source content key = some accepted) :
    key ∈ tunnel.peers.keys := by
  obtain ⟨peer, known, -⟩ := Option.bind_eq_some_iff.mp accepts
  exact (Table.mem_keys_iff tunnel.peers key).mpr ⟨peer, known⟩

/-! ## Who is asked -/

/-- The first peer whose endpoint is the source is asked alone. -/
theorem candidates_of_holder (holder : PublicKey) (held : tunnel.holder? source = some holder) :
    tunnel.candidates source = [holder] := by
  obtain ⟨⟨key, peer⟩, found, rfl⟩ := Option.map_eq_some_iff.mp held
  rw [candidates, found]

/-- Every peer is asked if none has the source for its endpoint. -/
theorem candidates_of_none (free : tunnel.holder? source = none) :
    tunnel.candidates source = tunnel.peers.keys := by
  rw [candidates, Option.map_eq_none_iff.mp free]

theorem candidates_nodup : (tunnel.candidates source).Nodup := by
  cases held : tunnel.holder? source with
  | none =>
    rw [candidates_of_none source tunnel held]
    exact tunnel.peers.nodup
  | some holder =>
    rw [candidates_of_holder source tunnel holder held]
    exact List.nodup_singleton holder

/-- Somebody takes a datagram if somebody accepts it, unless the first peer whose endpoint is the
source refuses. -/
theorem taken_iff :
    (∃ key accepted, tunnel.firstTaker? protocol source content (tunnel.candidates source) =
        some (key, accepted)) ↔
      (∃ key accepted, tunnel.verdict? protocol source content key = some accepted) ∧
        ∀ holder, tunnel.holder? source = some holder →
          tunnel.verdict? protocol source content holder ≠ none := by
  rw [← not_iff_not]
  have untaken : (¬ ∃ key accepted,
      tunnel.firstTaker? protocol source content (tunnel.candidates source) =
        some (key, accepted)) ↔
      ∀ key ∈ tunnel.candidates source, tunnel.verdict? protocol source content key = none := by
    rw [← firstTaker?_eq_none_iff, Option.eq_none_iff_forall_ne_some]
    simp
  rw [untaken]
  cases held : tunnel.holder? source with
  | none =>
    rw [candidates_of_none source tunnel held]
    constructor
    · rintro refuse ⟨⟨key, accepted, accepts⟩, -⟩
      rw [refuse key (mem_keys_of_verdict? protocol source content tunnel key accepted accepts)]
        at accepts
      cases accepts
    · intro nobody key _
      rw [Option.eq_none_iff_forall_ne_some]
      exact fun accepted accepts => nobody ⟨⟨key, accepted, accepts⟩, nofun⟩
  | some holder =>
    rw [candidates_of_holder source tunnel holder held, List.forall_mem_singleton]
    constructor
    · rintro refuses ⟨-, heard⟩
      exact heard holder rfl refuses
    · intro nobody
      rw [Option.eq_none_iff_forall_ne_some]
      intro accepted accepts
      refine nobody ⟨⟨holder, accepted, accepts⟩, ?_⟩
      intro same held refuses
      rw [← Option.some.inj held, accepts] at refuses
      cases refuses

end Sessions

/-! ## Where the endpoints go -/

section Endpoints

variable (source : SocketAddress) (content : Bytes) (tunnel : UserspaceTunnel Session)
  (world : World)

/-- A peer that roams has its endpoint at the source; the others stay. -/
theorem endpointOf_roam (key other : PublicKey) (known : (tunnel.endpointOf key).isSome) :
    (tunnel.roam key source).endpointOf other =
      if other = key then some source else tunnel.endpointOf other := by
  cases found : tunnel.peers.get? key with
  | none =>
    rw [endpointOf, found] at known
    cases known
  | some peer =>
    rw [roam, found, endpointOf, Table.get?_insert, endpointOf]
    split <;> rfl

/-- Sending through a session moves no endpoint. -/
theorem endpointOf_sendTo (key other : PublicKey) (peer : PeerSession Session) (packet : Bytes)
    (known : tunnel.peers.get? key = some peer) :
    (tunnel.sendTo protocol socket key peer packet world).2.1.endpointOf other =
      tunnel.endpointOf other := by
  have kept := endpointOf_keepSession tunnel key other peer
    (protocol.encapsulate packet peer.session).2 known
  unfold sendTo
  split
  · rfl
  · dsimp only
    split <;> exact kept

/-- Answering a request for an echo moves no endpoint. -/
theorem endpointOf_reply (key other : PublicKey) (sender destination : BitVec 32) (echo : Echo) :
    (tunnel.reply protocol socket key sender destination echo world).1.endpointOf other =
      tunnel.endpointOf other := by
  unfold reply
  split
  · rfl
  · rename_i peer known
    exact endpointOf_sendTo protocol socket tunnel _ key other peer _ known

/-- Taking a packet moves no endpoint. -/
theorem endpointOf_takePacket (key other : PublicKey) (packet : Bytes) :
    (tunnel.takePacket protocol socket key packet world).2.1.endpointOf other =
      tunnel.endpointOf other := by
  unfold takePacket
  split
  · rfl
  · dsimp only
    split
    · rfl
    · split
      · exact endpointOf_reply protocol socket tunnel world key other _ _ _
      · rfl

/-- A delivery puts the peer's endpoint at the source and moves no other. -/
theorem endpointOf_deliver (key other : PublicKey) (accepted : Decapsulation)
    (known : (tunnel.endpointOf key).isSome) :
    (tunnel.deliver protocol socket source key accepted world).2.1.endpointOf other =
      if other = key then some source else tunnel.endpointOf other := by
  unfold deliver
  dsimp only
  split
  · exact endpointOf_roam source tunnel key other known
  · rw [endpointOf_takePacket, endpointOf_roam source tunnel key other known]

/-- What comes of a datagram is a delivery, if somebody takes it, and nothing otherwise. -/
theorem receive_eq_deliver :
    tunnel.receive protocol socket source content world =
      let offered := (tunnel.offer protocol source content (tunnel.candidates source)).2
      match tunnel.firstTaker? protocol source content (tunnel.candidates source) with
      | some (key, accepted) => offered.deliver protocol socket source key accepted world
      | none => ([], offered, world) := by
  rw [← offer_eq_firstTaker? protocol source content tunnel _ (candidates_nodup source tunnel)]
  unfold receive deliver
  rcases tunnel.offer protocol source content (tunnel.candidates source) with
    ⟨_ | ⟨key, accepted⟩, offered⟩ <;> rfl

end Endpoints

/-! ## Deliveries -/

section Deliveries

variable (source : SocketAddress) (content : Bytes) (tunnel : UserspaceTunnel Session)
  (world : World)

/-- A datagram is delivered to a peer: of those that are asked it is the one that takes it, its
session accepts the datagram, what it accepted is dealt with, and its endpoint is at the source
afterwards while the others are where they were. -/
structure Delivers (key : PublicKey) (accepted : Decapsulation) : Prop where
  taken : (tunnel.offer protocol source content (tunnel.candidates source)).1 =
    some (key, accepted)
  accepts : tunnel.verdict? protocol source content key = some accepted
  dealt : tunnel.receive protocol socket source content world =
    (tunnel.offer protocol source content (tunnel.candidates source)).2.deliver protocol socket
      source key accepted world
  endpoints : ∀ other,
    (tunnel.receive protocol socket source content world).2.1.endpointOf other =
      if other = key then some source else tunnel.endpointOf other

/-- A datagram comes to nothing: no ping ends, nothing is sent, and no endpoint moves. -/
structure Drops : Prop where
  nothing : ∃ after, tunnel.receive protocol socket source content world = ([], after, world)
  endpoints : ∀ other,
    (tunnel.receive protocol socket source content world).2.1.endpointOf other =
      tunnel.endpointOf other

/-- Who takes a datagram has it delivered. -/
theorem delivers_of_taken (key : PublicKey) (accepted : Decapsulation)
    (taken : tunnel.firstTaker? protocol source content (tunnel.candidates source) =
      some (key, accepted)) :
    Delivers protocol socket source content tunnel world key accepted := by
  have accepts := verdict?_of_firstTaker? protocol source content tunnel _ key accepted taken
  have dealt : tunnel.receive protocol socket source content world =
      (tunnel.offer protocol source content (tunnel.candidates source)).2.deliver protocol socket
        source key accepted world := by
    rw [receive_eq_deliver, taken]
  have asked : ∀ other, (tunnel.offer protocol source content
      (tunnel.candidates source)).2.endpointOf other = tunnel.endpointOf other :=
    endpointOf_offer protocol source content tunnel _
  have known : (tunnel.endpointOf key).isSome := by
    obtain ⟨peer, found, -⟩ := Option.bind_eq_some_iff.mp accepts
    rw [endpointOf, found]
    rfl
  refine ⟨?_, accepts, dealt, fun other => ?_⟩
  · rw [offer_eq_firstTaker? protocol source content tunnel _ (candidates_nodup source tunnel),
      taken]
  · rw [dealt, endpointOf_deliver protocol socket source _ world key other accepted
      (by rwa [asked]), asked]

/-- What nobody takes comes to nothing. -/
theorem drops_of_untaken
    (untaken : tunnel.firstTaker? protocol source content (tunnel.candidates source) = none) :
    Drops protocol socket source content tunnel world := by
  have nothing : tunnel.receive protocol socket source content world =
      ([], (tunnel.offer protocol source content (tunnel.candidates source)).2, world) := by
    rw [receive_eq_deliver, untaken]
  refine ⟨⟨_, nothing⟩, fun other => ?_⟩
  rw [nothing, endpointOf_offer]

/-- Each datagram is delivered, or it comes to nothing. It is delivered exactly if some configured
session accepts it, unless the first peer whose endpoint is the source refuses it. -/
theorem datagram_delivered_iff :
    ((∃ key accepted, Delivers protocol socket source content tunnel world key accepted) ∨
        Drops protocol socket source content tunnel world) ∧
      ((∃ key accepted, Delivers protocol socket source content tunnel world key accepted) ↔
        (∃ key accepted, tunnel.verdict? protocol source content key = some accepted) ∧
          ∀ holder, tunnel.holder? source = some holder →
            tunnel.verdict? protocol source content holder ≠ none) := by
  constructor
  · cases taken : tunnel.firstTaker? protocol source content (tunnel.candidates source) with
    | none => exact Or.inr (drops_of_untaken protocol socket source content tunnel world taken)
    | some taker =>
      exact Or.inl ⟨taker.1, taker.2,
        delivers_of_taken protocol socket source content tunnel world _ _ taken⟩
  · rw [← taken_iff protocol source content tunnel]
    constructor
    · rintro ⟨key, accepted, delivered⟩
      refine ⟨key, accepted, ?_⟩
      rw [← offer_eq_firstTaker? protocol source content tunnel _ (candidates_nodup source tunnel)]
      exact delivered.taken
    · rintro ⟨key, accepted, taken⟩
      exact ⟨key, accepted,
        delivers_of_taken protocol socket source content tunnel world key accepted taken⟩

end Deliveries

/-- Sessions that know their peer by the last byte of its key, and accept what begins with it. -/
def marked : SessionProtocol (Option UInt8) where
  start key _ := key.bytes.getLast?
  encapsulate packet session := (.datagram packet, session)
  decapsulate _ content session :=
    (if content.head? = session then some ⟨[], none⟩ else none, session)

/-- A socket that sends everything, and numbers every packet alike. -/
def eager : DatagramSocket Unit := ⟨fun _ _ world => (.ok (), world), fun world => (0, world)⟩

open Sample in
/-- Of two configured peers the first roams to the address under which the second is known. Its
session accepts what it sends from there, and the datagram comes to nothing. -/
theorem roamed_peer_unheard :
    let peer (last : UInt8) (own : BitVec 32) : TunnelPeer :=
      ⟨key last, ⟨.v4 own, 51820, 0⟩, [network own], none, .reflexive⟩
    let tunnel := ((({} : UserspaceTunnel (Option UInt8)).configure marked (peer 2 2)).configure
      marked (peer 3 3))
    tunnel.verdict? marked (peer 3 3).endpoint [2] (key 2) = some ⟨[], none⟩ ∧
      tunnel.holder? (peer 3 3).endpoint = some (key 3) ∧
      (tunnel.receive marked eager (peer 3 3).endpoint [2] ()) = ([], tunnel, ()) ∧
      tunnel.endpointOf (key 2) = some (peer 2 2).endpoint := by
  decide +kernel

end MeshNode.UserspaceTunnel
