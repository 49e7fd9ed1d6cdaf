import MeshNode.Proofs.Runs
import MeshNode.Tunnel.Userspace

/-!
# Who answers a ping

Many pings share one tunnel. Each takes a sequence number, sends its request and waits, while other
pings come and go, packets come out of the sessions and the tunnel is configured. The steps of all
of them may come in any order.

The main statement follows one ping through every order of the steps. It is answered exactly if a
packet came out of some session, while the ping waited, that reads as a reply with the tunnel's
identifier and the number of the ping. Neither the peer nor the source of the packet matters, and
the destination of the ping does not occur in the condition: a peer that is not pinged can answer
for one that is. A ping is lost only if a ping under its number gives up, or if the numbers have
come round.
-/

namespace MeshNode

/-- A step of one of those that share a tunnel, taken in one go. -/
inductive TunnelStep (Session : Type) where
  /-- A ping takes the next sequence number and waits under it. -/
  | register
  /-- A ping sends its request. -/
  | ask (source destination : BitVec 32) (sequence : UInt16)
  /-- A ping under a number gives up: its request could not be sent, or its time is over. -/
  | abandon (sequence : UInt16)
  /-- A datagram comes in and is decrypted. -/
  | decrypt (source : SocketAddress) (content : Bytes)
  /-- A packet that came out of a peer's session is taken. -/
  | take (key : PublicKey) (packet : Bytes)
  /-- The tunnel is configured. -/
  | answer (request : Request)
  /-- The addresses of the tunnel are set. -/
  | setup (addresses : List Network)
  /-- A session moves on by its own clock. -/
  | advance (key : PublicKey) (session : Session)

/-- A step takes a sequence number. -/
def TunnelStep.registers {Session : Type} : TunnelStep Session → Bool
  | .register => true
  | _ => false

/-- What has become of a ping. -/
inductive PingFate where
  | waiting
  | answered
  /-- It was given up, or another ping has taken its number. -/
  | lost
  deriving DecidableEq, Repr

namespace UserspaceTunnel

variable {Session World : Type} (protocol : SessionProtocol Session) (socket : DatagramSocket World)
  (bind : World → Except String Unit × World)

/-! ## The steps -/

/-- Send the request of a ping. -/
def ask (source destination : BitVec 32) (sequence : UInt16) (tunnel : UserspaceTunnel Session)
    (world : World) : Except ProbeError Unit × UserspaceTunnel Session × World :=
  let (identification, world) := socket.identification world
  let echo : Echo := ⟨Echo.requestV4, tunnel.identifier, sequence, pingPayload⟩
  sendPacket protocol socket (.v4 destination)
    (Echo.packet identification source destination echo) tunnel world

/-- Decrypt a datagram and send what answers it; what came out stays with the peer's key. -/
def decrypt (source : SocketAddress) (content : Bytes) (tunnel : UserspaceTunnel Session)
    (world : World) : Option (PublicKey × Bytes) × UserspaceTunnel Session × World :=
  match offer protocol source content (tunnel.candidates source) tunnel with
  | (none, tunnel) => (none, tunnel, world)
  | (some (key, accepted), tunnel) =>
    (accepted.packet.map fun packet => (key, packet), tunnel.roam key source,
      sendAll socket source accepted.answers world)

/-- Put a session in the place of a peer's, if the peer is there. -/
def advance (key : PublicKey) (session : Session) (tunnel : UserspaceTunnel Session) :
    UserspaceTunnel Session :=
  match tunnel.peers.get? key with
  | some peer => tunnel.keepSession key peer session
  | none => tunnel

/-- The tunnel and the world after a step. -/
def after : UserspaceTunnel Session × World → TunnelStep Session →
    UserspaceTunnel Session × World
  | (tunnel, world), .register => (tunnel.register.2, world)
  | (tunnel, world), .ask source destination sequence =>
    (tunnel.ask protocol socket source destination sequence world).2
  | (tunnel, world), .abandon sequence => (tunnel.abandon sequence, world)
  | (tunnel, world), .decrypt source content =>
    (tunnel.decrypt protocol socket source content world).2
  | (tunnel, world), .take key packet => (tunnel.takePacket protocol socket key packet world).2
  | (tunnel, world), .answer request => ((tunnel.answer protocol request).2, world)
  | (tunnel, world), .setup addresses => (tunnel.setup bind addresses world).2
  | (tunnel, world), .advance key session => (tunnel.advance key session, world)

/-- The tunnel and the world after some steps. -/
def afterAll (steps : List (TunnelStep Session)) (shared : UserspaceTunnel Session × World) :
    UserspaceTunnel Session × World :=
  steps.foldl (after protocol socket bind) shared

/-- A ping that can be sent registers and asks; where that fails, it gives up. -/
theorem ping_eq_steps (source destination : BitVec 32) (tunnel : UserspaceTunnel Session)
    (world : World) (own : tunnel.sourceV4? = some source) :
    let sequence := tunnel.nextSequence
    let asked := tunnel.register.2.ask protocol socket source destination sequence world
    tunnel.ping protocol socket (.v4 destination) world =
      match asked.1 with
      | .ok () => (.ok sequence, afterAll protocol socket bind
          [.register, .ask source destination sequence] (tunnel, world))
      | .error error => (.error error, afterAll protocol socket bind
          [.register, .ask source destination sequence, .abandon sequence] (tunnel, world)) := by
  simp only [ping, own, afterAll, List.foldl_cons, List.foldl_nil, after, ask, register]
  generalize sendPacket protocol socket _ _ _ _ = sent
  rcases sent with ⟨_ | _, _, _⟩ <;> rfl

/-- A datagram is decrypted, and what came out is taken. -/
theorem receive_eq_steps (source : SocketAddress) (content : Bytes)
    (tunnel : UserspaceTunnel Session) (world : World) :
    let decrypted := tunnel.decrypt protocol socket source content world
    tunnel.receive protocol socket source content world =
      match decrypted.1 with
      | none => ([], afterAll protocol socket bind [.decrypt source content] (tunnel, world))
      | some (key, packet) =>
        ((decrypted.2.1.takePacket protocol socket key packet decrypted.2.2).1,
          afterAll protocol socket bind [.decrypt source content, .take key packet]
            (tunnel, world)) := by
  simp only [receive, afterAll, List.foldl_cons, List.foldl_nil, after, decrypt]
  rcases offer protocol source content (tunnel.candidates source) tunnel with
    ⟨_ | ⟨key, answers, _ | packet⟩, offered⟩ <;> rfl

/-! ## What the pings share -/

/-- The part of the tunnel that the pings share. -/
structure Desk where
  identifier : UInt16
  nextSequence : UInt16
  pending : List UInt16

/-- The pings' part of a tunnel. -/
def desk (tunnel : UserspaceTunnel Session) : Desk :=
  ⟨tunnel.identifier, tunnel.nextSequence, tunnel.pending⟩

/-- A packet reads as a reply with an identifier and a sequence number. -/
def IsReply (packet : Bytes) (identifier sequence : UInt16) : Prop :=
  ∃ source destination payload, Echo.ofPacket? packet =
    some (source, destination, ⟨Echo.replyV4, identifier, sequence, payload⟩)

/-- A step that ends the wait under a sequence number: its ping gives up, or a reply is taken. -/
inductive Ends (identifier sequence : UInt16) : TunnelStep Session → Prop where
  | abandon : Ends identifier sequence (.abandon sequence)
  | reply (key : PublicKey) (packet : Bytes) (reads : IsReply packet identifier sequence) :
      Ends identifier sequence (.take key packet)

section Desk

variable (tunnel : UserspaceTunnel Session) (world : World)

@[simp] theorem desk_keepSession (key : PublicKey) (peer : PeerSession Session)
    (session : Session) : (tunnel.keepSession key peer session).desk = tunnel.desk := rfl

@[simp] theorem desk_sendTo (key : PublicKey) (peer : PeerSession Session) (packet : Bytes) :
    (tunnel.sendTo protocol socket key peer packet world).2.1.desk = tunnel.desk := by
  unfold sendTo
  split
  · rfl
  · simp only
    split <;> rfl

@[simp] theorem desk_ask (source destination : BitVec 32) (sequence : UInt16) :
    (tunnel.ask protocol socket source destination sequence world).2.1.desk = tunnel.desk := by
  simp only [ask, sendPacket]
  split
  · rfl
  · exact desk_sendTo protocol socket _ _ _ _ _

@[simp] theorem desk_roam (key : PublicKey) (source : SocketAddress) :
    (tunnel.roam key source).desk = tunnel.desk := by
  unfold roam
  split <;> rfl

@[simp] theorem desk_advance (key : PublicKey) (session : Session) :
    (tunnel.advance key session).desk = tunnel.desk := by
  unfold advance
  split <;> rfl

@[simp] theorem desk_offer (source : SocketAddress) (content : Bytes) (keys : List PublicKey) :
    (tunnel.offer protocol source content keys).2.desk = tunnel.desk := by
  induction keys generalizing tunnel with
  | nil => rfl
  | cons key rest inductionHypothesis =>
    rw [offer]
    split
    · exact inductionHypothesis tunnel
    · simp only
      split
      · rfl
      · exact inductionHypothesis _

@[simp] theorem desk_decrypt (source : SocketAddress) (content : Bytes) :
    (tunnel.decrypt protocol socket source content world).2.1.desk = tunnel.desk := by
  have offered := desk_offer protocol tunnel source content (tunnel.candidates source)
  unfold decrypt
  split <;> simp_all

@[simp] theorem desk_reply (key : PublicKey) (source destination : BitVec 32) (echo : Echo) :
    (tunnel.reply protocol socket key source destination echo world).1.desk = tunnel.desk := by
  unfold reply
  split
  · rfl
  · exact desk_sendTo protocol socket _ _ _ _ _

@[simp] theorem desk_answer (request : Request) :
    (tunnel.answer protocol request).2.desk = tunnel.desk := by
  cases request with
  | addRoute network =>
    simp only [answer, addRoute]
    split <;> rfl
  | _ => rfl

@[simp] theorem desk_setup (addresses : List Network) :
    (tunnel.setup bind addresses world).2.1.desk = tunnel.desk := by
  unfold setup
  simp only
  split
  · rfl
  · split <;> rfl

theorem isReply_of_read {packet : Bytes} {source destination : BitVec 32} {echo : Echo}
    (read : Echo.ofPacket? packet = some (source, destination, echo))
    (identifier sequence : UInt16) : IsReply packet identifier sequence ↔
      echo.kind = Echo.replyV4 ∧ echo.identifier = identifier ∧ echo.sequence = sequence := by
  obtain ⟨kind, own, number, payload⟩ := echo
  simp [IsReply, read]

/-- Taking a packet ends the pings that it is a reply to, and leaves the others. -/
theorem takePacket_pending (key : PublicKey) (packet : Bytes) (sequence : UInt16) :
    let taken := tunnel.takePacket protocol socket key packet world
    (sequence ∈ taken.1 ↔ sequence ∈ tunnel.pending ∧ IsReply packet tunnel.identifier sequence) ∧
      taken.2.1.identifier = tunnel.identifier ∧ taken.2.1.nextSequence = tunnel.nextSequence ∧
      (sequence ∈ taken.2.1.pending ↔
        sequence ∈ tunnel.pending ∧ ¬ IsReply packet tunnel.identifier sequence) := by
  unfold takePacket
  split
  · rename_i unread
    simp [IsReply, unread]
  · rename_i source destination echo read
    have reads : IsReply packet tunnel.identifier sequence ↔
        (echo.kind = Echo.replyV4 ∧ echo.identifier = tunnel.identifier) ∧
          sequence = echo.sequence := by
      rw [isReply_of_read read, and_assoc, eq_comm (a := sequence)]
    rw [reads]
    split
    · rename_i reply
      simp [reply, abandon]
    · rename_i other
      have same : (tunnel.reply protocol socket key source destination echo world).1.desk =
          tunnel.desk := desk_reply protocol socket tunnel world key source destination echo
      simp only [desk, Desk.mk.injEq] at same
      split <;> simp [other, same]

end Desk

section Steps

variable (shared : UserspaceTunnel Session × World)

/-- What one step does to the pings' part of the tunnel. -/
theorem desk_after (step : TunnelStep Session) (sequence : UInt16) :
    let next := after protocol socket bind shared step
    next.1.identifier = shared.1.identifier ∧
      next.1.nextSequence = shared.1.nextSequence + (if step.registers then 1 else 0) ∧
      (sequence ∈ next.1.pending ↔
        (step.registers = true ∧ shared.1.nextSequence = sequence) ∨
          (sequence ∈ shared.1.pending ∧ ¬ Ends shared.1.identifier sequence step)) := by
  obtain ⟨tunnel, world⟩ := shared
  have of_silent : ∀ step : TunnelStep Session, step.registers = false →
      ¬ Ends tunnel.identifier sequence step →
      (after protocol socket bind (tunnel, world) step).1.desk = tunnel.desk →
      let next := after protocol socket bind (tunnel, world) step
      next.1.identifier = tunnel.identifier ∧
        next.1.nextSequence = tunnel.nextSequence + (if step.registers then 1 else 0) ∧
        (sequence ∈ next.1.pending ↔ (step.registers = true ∧ tunnel.nextSequence = sequence) ∨
          (sequence ∈ tunnel.pending ∧ ¬ Ends tunnel.identifier sequence step)) := by
    intro step takesNone endsNone same
    simp only [desk, Desk.mk.injEq] at same
    simp [same, takesNone, endsNone]
  cases step with
  | register =>
    have endless : ¬ Ends tunnel.identifier sequence (.register : TunnelStep Session) := nofun
    rw [eq_comm (a := (tunnel, world).1.nextSequence)]
    by_cases own : sequence = tunnel.nextSequence <;>
      simp [after, register, TunnelStep.registers, endless, own]
  | abandon other =>
    have ends : Ends tunnel.identifier sequence (.abandon other : TunnelStep Session) ↔
        sequence = other := ⟨by rintro ⟨⟩; rfl, by rintro rfl; exact .abandon⟩
    simp [after, UserspaceTunnel.abandon, TunnelStep.registers, ends]
  | take key packet =>
    have ends : Ends tunnel.identifier sequence (.take key packet : TunnelStep Session) ↔
        IsReply packet tunnel.identifier sequence :=
      ⟨by rintro ⟨⟩; assumption, .reply key packet⟩
    obtain ⟨_, identifier, next, pending⟩ :=
      takePacket_pending protocol socket tunnel world key packet sequence
    simp [after, TunnelStep.registers, ends, identifier, next, pending]
  | ask source destination number =>
    exact of_silent _ rfl nofun (desk_ask protocol socket tunnel world source destination number)
  | decrypt source content =>
    exact of_silent _ rfl nofun (desk_decrypt protocol socket tunnel world source content)
  | answer request => exact of_silent _ rfl nofun (desk_answer protocol tunnel request)
  | setup addresses => exact of_silent _ rfl nofun (desk_setup bind tunnel world addresses)
  | advance key session => exact of_silent _ rfl nofun (desk_advance tunnel key session)

@[simp] theorem identifier_afterAll (steps : List (TunnelStep Session)) :
    (afterAll protocol socket bind steps shared).1.identifier = shared.1.identifier := by
  induction steps generalizing shared with
  | nil => rfl
  | cons step rest inductionHypothesis =>
    exact (inductionHypothesis _).trans (desk_after protocol socket bind shared step 0).1

/-- Each ping takes the next number. -/
theorem nextSequence_afterAll (steps : List (TunnelStep Session)) :
    (afterAll protocol socket bind steps shared).1.nextSequence =
      shared.1.nextSequence + UInt16.ofNat (steps.countP TunnelStep.registers) := by
  induction steps generalizing shared with
  | nil => simp [afterAll]
  | cons step rest inductionHypothesis =>
    obtain ⟨_, next, _⟩ := desk_after protocol socket bind shared step 0
    refine (inductionHypothesis _).trans ?_
    rw [next, List.countP_cons]
    cases step.registers <;> simp [UInt16.add_assoc, UInt16.add_comm]

end Steps

/-! ## One ping among the others -/

section Fates

/-- What a step makes of a ping that waits under a sequence number. -/
def follow (sequence : UInt16) (shared : UserspaceTunnel Session × World) :
    TunnelStep Session → PingFate
  | .register => if shared.1.nextSequence = sequence then .lost else .waiting
  | .abandon other => if other = sequence then .lost else .waiting
  | .take key packet =>
    if sequence ∈ (shared.1.takePacket protocol socket key packet shared.2).1 then .answered
    else .waiting
  | _ => .waiting

/-- What some steps make of a ping that waits under a sequence number. -/
def fate (sequence : UInt16) :
    List (TunnelStep Session) → UserspaceTunnel Session × World → PingFate
  | [], _ => .waiting
  | step :: rest, shared =>
    match follow protocol socket sequence shared step with
    | .waiting => fate sequence rest (after protocol socket bind shared step)
    | final => final

variable (shared : UserspaceTunnel Session × World) (sequence : UInt16)

/-- A ping that waits is answered by a step that takes a reply to it. -/
theorem follow_answered (step : TunnelStep Session) (pending : sequence ∈ shared.1.pending) :
    follow protocol socket sequence shared step = .answered ↔
      ∃ key packet, step = .take key packet ∧ IsReply packet shared.1.identifier sequence := by
  cases step with
  | take key packet =>
    have taken := (takePacket_pending protocol socket shared.1 shared.2 key packet sequence).1
    simp [follow, taken, pending]
  | register => simp only [follow]; split <;> simp
  | abandon other => simp only [follow]; split <;> simp
  | _ => simp [follow]

/-- A ping that waits is lost to another ping that takes its number, or to one that gives it up. -/
theorem follow_lost (step : TunnelStep Session) :
    follow protocol socket sequence shared step = .lost ↔
      (step.registers = true ∧ shared.1.nextSequence = sequence) ∨ step = .abandon sequence := by
  cases step with
  | take key packet => simp only [follow]; split <;> simp [TunnelStep.registers]
  | _ => simp [follow, TunnelStep.registers]

/-- A ping that still waits is in the tunnel. -/
theorem pending_of_follow (step : TunnelStep Session) (pending : sequence ∈ shared.1.pending)
    (waits : follow protocol socket sequence shared step = .waiting) :
    sequence ∈ (after protocol socket bind shared step).1.pending := by
  refine (desk_after protocol socket bind shared step sequence).2.2.mpr (Or.inr ⟨pending, ?_⟩)
  rintro (_ | ⟨key, packet, reads⟩)
  · simp [follow] at waits
  · have answered := (follow_answered protocol socket shared sequence (.take key packet)
      pending).mpr ⟨key, packet, rfl, reads⟩
    rw [waits] at answered
    cases answered

/-- A ping that waits is answered exactly if a reply to it is taken while it still waits. -/
theorem fate_answered_iff (steps : List (TunnelStep Session))
    (pending : sequence ∈ shared.1.pending) :
    fate protocol socket bind sequence steps shared = .answered ↔
      ∃ middle key packet rest, steps = middle ++ .take key packet :: rest ∧
        fate protocol socket bind sequence middle shared = .waiting ∧
        IsReply packet shared.1.identifier sequence := by
  induction steps generalizing shared with
  | nil => simp [fate]
  | cons step rest inductionHypothesis =>
    have same : (after protocol socket bind shared step).1.identifier = shared.1.identifier :=
      (desk_after protocol socket bind shared step sequence).1
    have later (waits : follow protocol socket sequence shared step = .waiting) :=
      inductionHypothesis _
        (pending_of_follow protocol socket bind shared sequence step pending waits)
    rw [same] at later
    constructor
    · intro answered
      rw [fate] at answered
      split at answered
      · rename_i waits
        obtain ⟨middle, key, packet, rest, rfl, stillWaits, reads⟩ := (later waits).mp answered
        exact ⟨step :: middle, key, packet, rest, rfl, by rwa [fate, waits], reads⟩
      · obtain ⟨key, packet, rfl, reads⟩ :=
          (follow_answered protocol socket shared sequence step pending).mp answered
        exact ⟨[], key, packet, rest, rfl, rfl, reads⟩
    · rintro ⟨middle, key, packet, last, split, waited, reads⟩
      rcases middle with _ | ⟨first, middle⟩
      · obtain ⟨rfl, rfl⟩ := List.cons.inj split
        have answered := (follow_answered protocol socket shared sequence (.take key packet)
          pending).mpr ⟨key, packet, rfl, reads⟩
        rw [fate, answered]
      · obtain ⟨rfl, rfl⟩ := List.cons.inj split
        rw [fate] at waited ⊢
        split at waited
        · rename_i waits
          exact (later waits).mpr ⟨middle, key, packet, last, rfl, waited, reads⟩
        · rename_i final
          exact absurd waited final

/-- A ping is lost only if one under its number gives up or another ping takes its number. -/
theorem fate_lost (steps : List (TunnelStep Session))
    (lost : fate protocol socket bind sequence steps shared = .lost) :
    .abandon sequence ∈ steps ∨ ∃ middle step rest, steps = middle ++ step :: rest ∧
      step.registers = true ∧
      (afterAll protocol socket bind middle shared).1.nextSequence = sequence := by
  induction steps generalizing shared with
  | nil => cases lost
  | cons step rest inductionHypothesis =>
    rw [fate] at lost
    split at lost
    · rcases inductionHypothesis _ lost with gaveUp | ⟨middle, taker, last, rfl, registers, own⟩
      · exact Or.inl (List.mem_cons_of_mem _ gaveUp)
      · exact Or.inr ⟨step :: middle, taker, last, rfl, registers, own⟩
    · rcases (follow_lost protocol socket shared sequence step).mp lost with ⟨registers, own⟩ | rfl
      · exact Or.inr ⟨[], step, rest, rfl, registers, own⟩
      · exact Or.inl List.mem_cons_self

/-- In every order of the steps, a ping is answered exactly if a packet is taken while it waits
that reads as a reply with the tunnel's identifier and the number of the ping, from whichever peer
and source. It is lost only if a ping under its number gives up, or if the numbers have come round
since. -/
theorem ping_answered_iff (earlier later : List (TunnelStep Session)) :
    let before := afterAll protocol socket bind earlier shared
    let registered := after protocol socket bind before .register
    let number := before.1.nextSequence
    (fate protocol socket bind number later registered = .answered ↔
      ∃ middle key packet rest, later = middle ++ .take key packet :: rest ∧
        fate protocol socket bind number middle registered = .waiting ∧
        IsReply packet shared.1.identifier number) ∧
    (fate protocol socket bind number later registered = .lost →
      .abandon number ∈ later ∨ 65536 ≤ later.countP TunnelStep.registers) := by
  intro before registered number
  have pending : number ∈ registered.1.pending :=
    (desk_after protocol socket bind before .register number).2.2.mpr (Or.inl ⟨rfl, rfl⟩)
  have identifier : registered.1.identifier = shared.1.identifier :=
    (desk_after protocol socket bind before .register number).1.trans
      (identifier_afterAll protocol socket bind shared earlier)
  have next : registered.1.nextSequence = number + 1 := rfl
  constructor
  · rw [← identifier]
    exact fate_answered_iff protocol socket bind registered number later pending
  · intro lost
    refine (fate_lost protocol socket bind registered number later lost).imp_right ?_
    rintro ⟨middle, step, rest, rfl, registers, own⟩
    rw [nextSequence_afterAll, next] at own
    have round := congrArg UInt16.toNat own
    simp only [UInt16.toNat_add, UInt16.toNat_ofNat'] at round
    have small : number.toNat < 65536 := number.toNat_lt
    have one : (1 : UInt16).toNat = 1 := rfl
    rw [List.countP_append, List.countP_cons, registers]
    simp only [if_true]
    omega

end Fates

/-- Sessions that take what a peer sends as it is. -/
def plain : SessionProtocol Unit where
  start _ _ := ()
  encapsulate packet session := (.datagram packet, session)
  decapsulate _ content session := (some ⟨[], some content⟩, session)

/-- A socket that sends everything, and numbers every packet alike. -/
def obliging : DatagramSocket Unit := ⟨fun _ _ world => (.ok (), world), fun world => (0, world)⟩

/-- A reply to the first ping of a new tunnel: it says that it is from 100.64.0.3. -/
def strangerReply : Bytes :=
  [0x45, 0, 0, 28, 0, 0, 0, 0, 64, 1, 0, 0, 100, 64, 0, 3, 100, 64, 0, 1, 0, 0, 0, 0, 0, 0, 0, 1]

open Sample in
/-- Of two configured peers the first is pinged, and the ping ends by a packet from the second,
which is no packet from the address that is pinged. -/
theorem stranger_answers_ping :
    let peer (last : UInt8) (own : BitVec 32) : TunnelPeer :=
      ⟨key last, ⟨.v4 own, 51820, 0⟩, [network own], none, .reflexive⟩
    let configured := afterAll plain obliging (fun world => (.ok (), world))
      [.setup [network 1], .answer (.configure (peer 2 2)), .answer (.addRoute (network 2)),
        .answer (.configure (peer 3 3))] ({}, ())
    let pinged := configured.1.ping plain obliging (network 2).address configured.2
    (configured.1.carrier? (network 2).address).map Prod.fst = some (key 2) ∧
      pinged.1 = .ok 1 ∧
      (pinged.2.1.decrypt plain obliging (peer 3 3).endpoint strangerReply pinged.2.2).1 =
        some (key 3, strangerReply) ∧
      (pinged.2.1.receive plain obliging (peer 3 3).endpoint strangerReply pinged.2.2).1 = [1] ∧
      ∀ source destination echo, Echo.ofPacket? strangerReply = some (source, destination, echo) →
        Address.v4 source ≠ (network 2).address := by
  have read : Echo.ofPacket? strangerReply = some (0x64400003, 0x64400001, ⟨0, 0, 1, []⟩) := by
    decide +kernel
  refine ⟨by decide +kernel, by decide +kernel, by decide +kernel, by decide +kernel, ?_⟩
  rintro source destination echo reads
  obtain ⟨rfl, _⟩ := Prod.mk.inj (Option.some.inj (read.symm.trans reads))
  decide

end UserspaceTunnel

end MeshNode
