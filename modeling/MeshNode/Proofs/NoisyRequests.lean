import MeshNode.Proofs.ResponseReading

/-!
# Requests on a noisy network

A request waits on a socket that anyone can send to. What arrives there without being its answer is
noise, and there are three kinds: a datagram from elsewhere, an answer to another request, and what
answers no request at all. Every datagram is either noise or an answer, because one message cannot
answer two requests.

The wait goes on over noise and ends with the first answer. So it comes to what the datagrams that
arrive in time say when the noise is left out, however much of it there is and wherever it stands.
What arrives too late does not count; neither the length of the wait nor the times of the arrivals
matter beyond that.
-/

namespace MeshNode

namespace Stun

/-! ## Answers and noise -/

theorem eq_invalidResponse_of_readResponse (id : TransactionId) (message : Bytes)
    (failure : Failure) (failed : readResponse id message = .error failure) :
    failure = .invalidResponse := by
  unfold readResponse at failed
  split at failed
  · cases failed
  · exact (Except.error.inj failed).symm

/-- A message is read as the answer to one request only. -/
theorem transaction_unique (id other : TransactionId) (message : Bytes)
    (socket otherSocket : SocketAddress) (read : readResponse id message = .ok socket)
    (otherRead : readResponse other message = .ok otherSocket) : id = other := by
  have own := (answers_of_readResponse id message socket read).heads.2.2
  have others := (answers_of_readResponse other message otherSocket otherRead).heads.2.2
  cases id
  cases other
  congr
  exact own.symm.trans others

/-- A datagram is the reflector's answer to a request, and this is the mapping in it. -/
def Datagram.Carries (server : SocketAddress) (id : TransactionId) (datagram : Datagram)
    (mapped : SocketAddress) : Prop :=
  datagram.source = server ∧ readResponse id (datagram.content.take receiveLimit) = .ok mapped

theorem mappingIn?_eq_some_iff (server : SocketAddress) (id : TransactionId) (datagram : Datagram)
    (mapped : SocketAddress) :
    mappingIn? server id datagram = some mapped ↔ datagram.Carries server id mapped := by
  unfold mappingIn? Datagram.Carries
  by_cases same : datagram.source = server
  · rw [if_pos same]
    cases readResponse id (datagram.content.take receiveLimit) <;> simp [same, Except.toOption]
  · simp [same]

theorem mappingIn?_eq_none_iff (server : SocketAddress) (id : TransactionId)
    (datagram : Datagram) :
    mappingIn? server id datagram = none ↔ ∀ mapped, ¬datagram.Carries server id mapped := by
  rw [Option.eq_none_iff_forall_ne_some]
  simp only [ne_eq, mappingIn?_eq_some_iff]

/-- What arrives at a socket without being the answer to a request. -/
inductive Noise (server : SocketAddress) (id : TransactionId) (datagram : Datagram) : Prop where
  /-- It does not come from the reflector. -/
  | foreign (elsewhere : datagram.source ≠ server)
  /-- It answers another request. -/
  | stale (other : TransactionId) (mapped : SocketAddress) (differs : other ≠ id)
    (answered : readResponse other (datagram.content.take receiveLimit) = .ok mapped)
  /-- It answers no request. -/
  | malformed (unread : ∀ other mapped,
      readResponse other (datagram.content.take receiveLimit) ≠ .ok mapped)

/-- Noise is everything but an answer. -/
theorem noise_iff (server : SocketAddress) (id : TransactionId) (datagram : Datagram) :
    Noise server id datagram ↔ ∀ mapped, ¬datagram.Carries server id mapped := by
  constructor
  · intro noise mapped carries
    obtain ⟨same, read⟩ := carries
    cases noise with
    | foreign elsewhere => exact elsewhere same
    | stale other otherMapped differs answered =>
      exact differs (transaction_unique other id _ otherMapped mapped answered read)
    | malformed unread => exact unread id mapped read
  · intro silent
    by_cases same : datagram.source = server
    · by_cases answered : ∃ other mapped,
          readResponse other (datagram.content.take receiveLimit) = .ok mapped
      · obtain ⟨other, mapped, answered⟩ := answered
        refine .stale other mapped ?_ answered
        rintro rfl
        exact silent mapped ⟨same, answered⟩
      · exact .malformed fun other mapped read => answered ⟨other, mapped, read⟩
    · exact .foreign same

instance (server : SocketAddress) (id : TransactionId) (datagram : Datagram) :
    Decidable (Noise server id datagram) :=
  decidable_of_iff (mappingIn? server id datagram = none)
    ((mappingIn?_eq_none_iff server id datagram).trans (noise_iff server id datagram).symm)

/-- Of a response that reports an address, nothing is cut off. -/
theorem take_response (id : TransactionId) (mapped : SocketAddress) :
    (response id mapped).take receiveLimit = response id mapped := by
  have long : 16 ≤ (obfuscation id).length := Nat.le_of_eq (length_obfuscation id).symm
  have value := length_encodeAddress (obfuscation id) mapped long
  have length : (response id mapped).length =
      24 + (encodeAddress (obfuscation id) mapped).length := by
    simp [response, responseOf, header, Attribute.encode, Bytes.ofWord, length_cookie,
      id.length_eq]
    omega
  apply List.take_of_length_le
  rw [length, receiveLimit]
  omega

/-- A response of the reflector to the request is an answer. -/
theorem carries_response (server : SocketAddress) (id : TransactionId) (address : Address)
    (port : UInt16) :
    Datagram.Carries server id ⟨server, response id ⟨address, port, 0⟩⟩ ⟨address, port, 0⟩ := by
  refine ⟨rfl, ?_⟩
  rw [take_response]
  exact readResponse_response id address port

/-- A response of the reflector to another request is noise. -/
theorem noise_response (server : SocketAddress) (id other : TransactionId) (address : Address)
    (port : UInt16) (differs : other ≠ id) :
    Noise server id ⟨server, response other ⟨address, port, 0⟩⟩ :=
  .stale other ⟨address, port, 0⟩ differs (carries_response server other address port).2

/-- What is left of datagrams without the noise. -/
def withoutNoise (server : SocketAddress) (id : TransactionId) (datagrams : List Datagram) :
    List Datagram :=
  datagrams.filter fun datagram => ¬Noise server id datagram

/-- Noise may be left out. -/
theorem awaitMapping_withoutNoise (server : SocketAddress) (id : TransactionId)
    (datagrams : List Datagram) :
    awaitMapping server id (withoutNoise server id datagrams) =
      awaitMapping server id datagrams := by
  have same : (withoutNoise server id datagrams).findSome? (mappingIn? server id) =
      datagrams.findSome? (mappingIn? server id) := by
    induction datagrams with
    | nil => rfl
    | cons datagram rest inductionHypothesis =>
      rw [withoutNoise] at inductionHypothesis ⊢
      by_cases noise : Noise server id datagram
      · have silent : mappingIn? server id datagram = none :=
          (mappingIn?_eq_none_iff server id datagram).mpr
            ((noise_iff server id datagram).mp noise)
        rw [List.filter_cons_of_neg (by simpa using noise), List.findSome?_cons, silent]
        exact inductionHypothesis
      · rw [List.filter_cons_of_pos (by simpa using noise), List.findSome?_cons,
          List.findSome?_cons, inductionHypothesis]
  unfold awaitMapping
  rw [same]

/-! ## The wait -/

/-- What is received at a time still counts for a wait: it was there when the wait began, or it
comes before the deadline. -/
def Timely (start deadline time : Nat) : Prop := time ≤ start ∨ time < deadline

instance (start deadline time : Nat) : Decidable (Timely start deadline time) :=
  inferInstanceAs (Decidable (_ ∨ _))

/-- The end of a wait that something brings about, if it does. -/
def settled? (server : SocketAddress) (id : TransactionId) :
    Except String Datagram → Option (Except Failure SocketAddress)
  | .error text => some (.error (.io text))
  | .ok datagram => (mappingIn? server id datagram).map .ok

/-- One step of a wait: something timely ends it or is passed over, and else the time is up. -/
theorem awaitAnswer_cons (server : SocketAddress) (id : TransactionId) (deadline now : Nat)
    (arrival : Arrival) (later : List Arrival) :
    awaitAnswer server id deadline now (arrival :: later) =
      if Timely now deadline arrival.time then
        (settled? server id arrival.received).getD
          (awaitAnswer server id deadline (max now arrival.time) later)
      else .error .timeout := by
  have late : (now < arrival.time ∧ deadline ≤ arrival.time) ↔
      ¬Timely now deadline arrival.time := by
    unfold Timely
    omega
  rw [awaitAnswer]
  by_cases timely : Timely now deadline arrival.time
  · rw [if_pos timely, if_neg fun past => late.mp past timely]
    cases arrival.received with
    | error text => rfl
    | ok datagram =>
      by_cases same : datagram.source = server
      · have read : mappingIn? server id datagram =
            (readResponse id (datagram.content.take receiveLimit)).toOption := if_pos same
        simp only [settled?, read, ne_eq, same, not_true_eq_false, if_false]
        cases result : readResponse id (datagram.content.take receiveLimit) with
        | ok mapped => rfl
        | error failure =>
          obtain rfl := eq_invalidResponse_of_readResponse id _ failure result
          rfl
      · have unread : mappingIn? server id datagram = none := if_neg same
        simp only [settled?, unread, ne_eq, same, not_false_eq_true, if_true]
        rfl
  · rw [if_neg timely, if_pos (late.mpr timely)]

/-- A wait comes to what the first timely arrival that ends it brings about. -/
theorem awaitAnswer_append (server : SocketAddress) (id : TransactionId) (start deadline now : Nat)
    (inTime late : List Arrival)
    (timely : ∀ arrival ∈ inTime, Timely start deadline arrival.time)
    (tooLate : ∀ arrival ∈ late, ¬Timely start deadline arrival.time)
    (begun : start ≤ now) (running : Timely start deadline now) :
    awaitAnswer server id deadline now (inTime ++ late) =
      (inTime.findSome? fun arrival => settled? server id arrival.received).getD
        (.error .timeout) := by
  -- the clock only moves to times of timely arrivals, so what is timely stays the same
  have same (time : Nat) (now : Nat) (begun : start ≤ now) (running : Timely start deadline now) :
      Timely now deadline time ↔ Timely start deadline time := by
    unfold Timely at running ⊢
    omega
  induction inTime generalizing now with
  | nil =>
    cases late with
    | nil => rfl
    | cons arrival rest =>
      have past : ¬Timely now deadline arrival.time := fun timely =>
        tooLate arrival List.mem_cons_self ((same _ now begun running).mp timely)
      exact (awaitAnswer_cons server id deadline now arrival rest).trans (if_neg past)
  | cons arrival rest inductionHypothesis =>
    have here := timely arrival List.mem_cons_self
    have behind := inductionHypothesis (max now arrival.time)
      (fun later member => timely later (List.mem_cons_of_mem arrival member))
      (by omega) (by unfold Timely at here running ⊢; omega)
    rw [List.cons_append, awaitAnswer_cons, if_pos ((same _ now begun running).mpr here), behind,
      List.findSome?_cons]
    cases settled? server id arrival.received <;> rfl

/-- Between the start of a wait and its deadline a socket hands out these datagrams, in their
order. -/
def Socket.Hears (socket : Socket) (start deadline : Nat) (datagrams : List Datagram) : Prop :=
  ∃ inTime late, socket.arrivals = inTime ++ late ∧
    inTime.map Arrival.received = datagrams.map .ok ∧
    (∀ arrival ∈ inTime, Timely start deadline arrival.time) ∧
    ∀ arrival ∈ late, ¬Timely start deadline arrival.time

/-- A request that was sent comes to what the datagrams say that arrive in time. -/
theorem ask_of_hears (server : SocketAddress) (id : TransactionId) (wait start : Nat)
    (socket : Socket) (datagrams : List Datagram)
    (sent : socket.send server (request id) = .ok start)
    (hears : socket.Hears start (start + wait) datagrams) :
    ask server id wait socket = awaitMapping server id datagrams := by
  obtain ⟨inTime, late, arrivals, received, timely, tooLate⟩ := hears
  have ends : inTime.findSome? (fun arrival => settled? server id arrival.received) =
      (datagrams.findSome? (mappingIn? server id)).map .ok := by
    calc inTime.findSome? (fun arrival => settled? server id arrival.received)
      _ = (inTime.map Arrival.received).findSome? (settled? server id) := by
        rw [List.findSome?_map]
        rfl
      _ = datagrams.findSome? (fun datagram => (mappingIn? server id datagram).map .ok) := by
        rw [received, List.findSome?_map]
        rfl
      _ = (datagrams.findSome? (mappingIn? server id)).map .ok := List.map_findSome?.symm
  unfold ask
  rw [sent]
  change awaitAnswer server id (start + wait) start socket.arrivals = _
  rw [arrivals, awaitAnswer_append server id start (start + wait) start inTime late timely tooLate
    (Nat.le_refl start) (Or.inl (Nat.le_refl start)), ends]
  unfold awaitMapping
  cases datagrams.findSome? (mappingIn? server id) <;> rfl

/-! ## Immunity -/

theorem awaitMapping_eq_ok_iff (server : SocketAddress) (id : TransactionId)
    (datagrams : List Datagram) (mapped : SocketAddress) :
    awaitMapping server id datagrams = .ok mapped ↔
      ∃ before answer behind, datagrams = before ++ answer :: behind ∧
        answer.Carries server id mapped ∧
        ∀ earlier ∈ before, ∀ other, ¬earlier.Carries server id other := by
  have found : awaitMapping server id datagrams = .ok mapped ↔
      datagrams.findSome? (mappingIn? server id) = some mapped := by
    unfold awaitMapping
    cases datagrams.findSome? (mappingIn? server id) <;> simp
  simp only [found, List.findSome?_eq_some_iff, mappingIn?_eq_some_iff, mappingIn?_eq_none_iff]

theorem awaitMapping_eq_timeout_iff (server : SocketAddress) (id : TransactionId)
    (datagrams : List Datagram) :
    awaitMapping server id datagrams = .error .timeout ↔
      ∀ datagram ∈ datagrams, ∀ mapped, ¬datagram.Carries server id mapped := by
  have missed : awaitMapping server id datagrams = .error .timeout ↔
      datagrams.findSome? (mappingIn? server id) = none := by
    unfold awaitMapping
    cases datagrams.findSome? (mappingIn? server id) <;> simp
  simp only [missed, List.findSome?_eq_none_iff, mappingIn?_eq_none_iff]

/-- A request that was sent, whatever arrives. It comes to the mapping of the first datagram in time
that answers it, and it times out if there is none; and with the same request on another network,
where other noise arrives in other places, it comes to the same. -/
theorem ask_immune_to_noise (server : SocketAddress) (id : TransactionId) (wait start : Nat)
    (socket : Socket) (datagrams : List Datagram)
    (sent : socket.send server (request id) = .ok start)
    (hears : socket.Hears start (start + wait) datagrams) :
    (∀ mapped, ask server id wait socket = .ok mapped ↔
      ∃ before answer behind, datagrams = before ++ answer :: behind ∧
        answer.Carries server id mapped ∧
        ∀ earlier ∈ before, ∀ other, ¬earlier.Carries server id other) ∧
    (ask server id wait socket = .error .timeout ↔
      ∀ datagram ∈ datagrams, ∀ mapped, ¬datagram.Carries server id mapped) ∧
    ∀ (otherWait otherStart : Nat) (otherSocket : Socket) (others : List Datagram),
      otherSocket.send server (request id) = .ok otherStart →
      otherSocket.Hears otherStart (otherStart + otherWait) others →
      withoutNoise server id others = withoutNoise server id datagrams →
      ask server id otherWait otherSocket = ask server id wait socket := by
  have own := ask_of_hears server id wait start socket datagrams sent hears
  refine ⟨?_, ?_, ?_⟩
  · intro mapped
    rw [own]
    exact awaitMapping_eq_ok_iff server id datagrams mapped
  · rw [own]
    exact awaitMapping_eq_timeout_iff server id datagrams
  · intro otherWait otherStart otherSocket others otherSent otherHears same
    have other :=
      ask_of_hears server id otherWait otherStart otherSocket others otherSent otherHears
    rw [own, other, ← awaitMapping_withoutNoise server id others, same,
      awaitMapping_withoutNoise server id datagrams]

end Stun

namespace Sample

/-- A reflector's address. -/
def reflector : SocketAddress := ⟨.v4 0x5BC0_0201, 3478, 0⟩

/-- The mapping that the reflector reports. -/
def mapping : SocketAddress := ⟨.v4 0xCB00_7109, 40000, 0⟩

/-- An answer to the request. -/
def answer : Stun.Datagram := ⟨reflector, Stun.response transaction mapping⟩

/-- An answer to the request with another mapping, from elsewhere. -/
def forged : Stun.Datagram :=
  ⟨⟨.v4 0x0808_0808, 3478, 0⟩, Stun.response transaction ⟨.v4 0x0808_0808, 1, 0⟩⟩

/-- A late answer to an earlier request. -/
def stale : Stun.Datagram :=
  ⟨reflector, Stun.response ⟨List.replicate 12 9, rfl⟩ ⟨.v4 0xCB00_7109, 39999, 0⟩⟩

/-- A datagram that is no message at all. -/
def malformed : Stun.Datagram := ⟨reflector, [1, 2, 3]⟩

/-- A socket at which an answer arrives among noise, and another forgery behind the deadline. -/
def busySocket : Stun.Socket where
  send := fun _ _ => .ok 10
  arrivals := [⟨3, .ok stale⟩, ⟨20, .ok forged⟩, ⟨20, .ok malformed⟩, ⟨50, .ok answer⟩,
    ⟨60, .ok stale⟩, ⟨700, .ok forged⟩]

/-- A socket at which only the answer arrives. -/
def calmSocket : Stun.Socket where
  send := fun _ _ => .ok 0
  arrivals := [⟨9, .ok answer⟩]

end Sample

namespace Stun

/-- The answer among forged, stale and malformed datagrams is taken, as it is on a calm network. -/
theorem ask_busySocket :
    ask Sample.reflector Sample.transaction 100 Sample.busySocket = .ok Sample.mapping ∧
      ask Sample.reflector Sample.transaction 30 Sample.calmSocket =
        ask Sample.reflector Sample.transaction 100 Sample.busySocket := by
  have answered : Sample.answer.Carries Sample.reflector Sample.transaction Sample.mapping :=
    carries_response Sample.reflector Sample.transaction _ _
  have forged : Noise Sample.reflector Sample.transaction Sample.forged := .foreign (by decide)
  have stale : Noise Sample.reflector Sample.transaction Sample.stale :=
    noise_response Sample.reflector Sample.transaction _ _ _ (by decide)
  have malformed : Noise Sample.reflector Sample.transaction Sample.malformed := by
    refine .malformed fun other mapped read => ?_
    have heads := (answers_of_readResponse _ _ _ read).heads.1
    revert heads
    decide
  have kept : ¬Noise Sample.reflector Sample.transaction Sample.answer := fun noise =>
    (noise_iff _ _ _).mp noise _ answered
  have busy : Sample.busySocket.Hears 10 (10 + 100)
      [Sample.stale, Sample.forged, Sample.malformed, Sample.answer, Sample.stale] :=
    ⟨Sample.busySocket.arrivals.take 5, [⟨700, .ok Sample.forged⟩], rfl, rfl,
      by simp [Sample.busySocket, Timely], by simp [Timely]⟩
  have calm : Sample.calmSocket.Hears 0 (0 + 30) [Sample.answer] :=
    ⟨Sample.calmSocket.arrivals, [], rfl, rfl, by simp [Sample.calmSocket, Timely], nofun⟩
  obtain ⟨first, _, same⟩ := ask_immune_to_noise Sample.reflector Sample.transaction 100 10
    Sample.busySocket _ rfl busy
  constructor
  · refine (first Sample.mapping).mpr
      ⟨[Sample.stale, Sample.forged, Sample.malformed], Sample.answer, [Sample.stale], rfl,
        answered, ?_⟩
    intro earlier member
    have noise : Noise Sample.reflector Sample.transaction earlier := by
      simp only [List.mem_cons, List.not_mem_nil, or_false] at member
      rcases member with rfl | rfl | rfl
      · exact stale
      · exact forged
      · exact malformed
    exact (noise_iff _ _ _).mp noise
  · refine same 30 0 Sample.calmSocket [Sample.answer] rfl calm ?_
    simp [withoutNoise, stale, forged, malformed, kept]

end Stun

end MeshNode
