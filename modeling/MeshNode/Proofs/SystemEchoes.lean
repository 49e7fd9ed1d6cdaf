import MeshNode.SystemEcho

/-!
# What an echo of the system measures

A socket hands out what arrives in the order of time. Of what comes before the deadline, the first
arrival decides that is the reply or tells why nothing can be received, and without one the wait
ends in vain. So an address has a latency exactly if a socket for its family was opened, connected
and could send the request, and the reply came in time and before any failure.
-/

namespace MeshNode.SystemEcho

/-- What arrives is handed out in the order of time. -/
def InOrder (arrivals : List EchoArrival) : Prop :=
  arrivals.Pairwise fun earlier later => earlier.time ≤ later.time

/-- What an arrival decides, if it is the reply or a failure. -/
def verdict? (replies : Echo → Bool) (arrival : EchoArrival) : Option (Except ProbeError Nat) :=
  match arrival.received with
  | .error text => some (.error (.io text))
  | .ok bytes => if (echoIn? bytes).any replies then some (.ok arrival.time) else none

/-- An arrival is the reply. -/
def Answers (replies : Echo → Bool) (arrival : EchoArrival) : Prop :=
  ∃ bytes echo, arrival.received = .ok bytes ∧ echoIn? bytes = some echo ∧ replies echo = true

theorem verdict?_eq_ok_iff (replies : Echo → Bool) (arrival : EchoArrival) (latency : Nat) :
    verdict? replies arrival = some (.ok latency) ↔
      Answers replies arrival ∧ arrival.time = latency := by
  unfold verdict? Answers
  cases received : arrival.received with
  | error text => simp
  | ok bytes => cases heard : echoIn? bytes <;> simp [heard]

/-- The first decision before the deadline is what the waiting comes to. -/
theorem awaitReply_eq (replies : Echo → Bool) (deadline now : Nat) (arrivals : List EchoArrival)
    (ordered : InOrder arrivals) (begun : ∀ arrival ∈ arrivals, now ≤ arrival.time) :
    awaitReply replies deadline now arrivals =
      ((arrivals.takeWhile (·.time < deadline)).findSome? (verdict? replies)).getD
        (.error .timeout) := by
  induction arrivals generalizing now with
  | nil => rfl
  | cons arrival later inductionHypothesis =>
    obtain ⟨behind, restOrdered⟩ := List.pairwise_cons.mp ordered
    have current : max now arrival.time = arrival.time :=
      Nat.max_eq_right (begun arrival List.mem_cons_self)
    have rest := inductionHypothesis arrival.time restOrdered behind
    rw [awaitReply, current, List.takeWhile_cons]
    by_cases late : deadline ≤ arrival.time
    · simp [late, Nat.not_lt.mpr late]
    · have early : arrival.time < deadline := Nat.lt_of_not_le late
      simp only [if_neg late, decide_eq_true early, if_true, List.findSome?_cons, verdict?]
      cases received : arrival.received with
      | error text => rfl
      | ok bytes =>
        cases heard : echoIn? bytes with
        | none => simpa [heard] using rest
        | some echo =>
          cases reply : replies echo with
          | true => simp [heard, reply]
          | false => simpa [heard, reply] using rest

/-- So a wait succeeds exactly by the first arrival that decides anything, in time. -/
theorem awaitReply_eq_ok_iff (replies : Echo → Bool) (deadline latency : Nat)
    (arrivals : List EchoArrival) (ordered : InOrder arrivals) :
    awaitReply replies deadline 0 arrivals = .ok latency ↔
      ∃ before arrival later, arrivals = before ++ arrival :: later ∧
        arrival.time = latency ∧ latency < deadline ∧ Answers replies arrival ∧
        ∀ earlier ∈ before, verdict? replies earlier = none := by
  have decided : ∀ outcome : Option (Except ProbeError Nat),
      outcome.getD (.error .timeout) = .ok latency ↔ outcome = some (.ok latency) := by
    intro outcome
    cases outcome <;> simp
  rw [awaitReply_eq replies deadline 0 arrivals ordered fun _ _ => Nat.zero_le _, decided,
    List.findSome?_eq_some_iff]
  constructor
  · rintro ⟨before, arrival, later, split, verdict, passed⟩
    obtain ⟨answers, time⟩ := (verdict?_eq_ok_iff replies arrival latency).mp verdict
    have inTime : arrival.time < deadline := by
      have member : arrival ∈ arrivals.takeWhile (·.time < deadline) := by simp [split]
      simpa using List.all_eq_true.mp List.all_takeWhile arrival member
    refine ⟨before, arrival, later ++ arrivals.dropWhile (·.time < deadline), ?_, time,
      time ▸ inTime, answers, passed⟩
    rw [← List.cons_append, ← List.append_assoc, ← split, List.takeWhile_append_dropWhile]
  · rintro ⟨before, arrival, later, rfl, rfl, inTime, answers, passed⟩
    have earlierInTime : ∀ earlier ∈ before, decide (earlier.time < deadline) = true := by
      intro earlier member
      have noLater := (List.pairwise_append.mp ordered).2.2 earlier member arrival
        List.mem_cons_self
      simpa using Nat.lt_of_le_of_lt noLater inTime
    refine ⟨before, arrival, later.takeWhile (·.time < deadline), ?_,
      (verdict?_eq_ok_iff replies arrival arrival.time).mpr ⟨answers, rfl⟩, passed⟩
    rw [List.takeWhile_append_of_pos earlierInTime, List.takeWhile_cons_of_pos (by simpa)]

variable {World : Type} (system : EchoSystem World)

/-- A measurement comes to the waiting if everything before it succeeds, and fails otherwise. -/
theorem measure_eq_ok_iff_awaitReply (address : Address) (wait : Nat) (echoes : SystemEcho)
    (world : World) (latency : Nat) :
    (echoes.measure system address wait world).1 = .ok latency ↔
      ∃ socket opened connected arrivals sent,
        openSocket system address.family world = (.ok socket, opened) ∧
        system.connect address opened = (.ok (), connected) ∧
        system.send (echoes.request address.family).encode connected = (.ok arrivals, sent) ∧
        awaitReply (isReply address.family socket (echoes.request address.family)) wait 0
          arrivals = .ok latency := by
  simp only [measure, exchange]
  rcases openSocket system address.family world with ⟨_ | socket, opened⟩
  · simp
  rcases connecting : system.connect address opened with ⟨_ | ⟨⟩, connected⟩
  · simp [connecting]
  rcases sending : system.send (echoes.request address.family).encode connected
    with ⟨_ | arrivals, sent⟩
  · simp [connecting, sending]
  simp only [connecting, sending]
  constructor
  · intro waited
    exact ⟨socket, opened, connected, arrivals, sent, rfl, connecting, sending, waited⟩
  · rintro ⟨_, _, _, _, _, ⟨⟩, connectingAgain, sendingAgain, waited⟩
    cases connecting.symm.trans connectingAgain
    cases sending.symm.trans sendingAgain
    exact waited

/-- Take a system whose sockets hand out in order what arrives. A measurement has a latency exactly
if a socket was opened and connected, the request went out, and the first arrival before the
deadline that decides anything is the reply to it: an echo of the family's kind with the number of
the request, and on a raw socket with its identifier. -/
theorem measure_eq_ok_iff
    (ordered : ∀ bytes before arrivals after,
      system.send bytes before = (.ok arrivals, after) → InOrder arrivals)
    (address : Address) (wait : Nat) (echoes : SystemEcho) (world : World) (latency : Nat) :
    (echoes.measure system address wait world).1 = .ok latency ↔
      ∃ socket opened connected arrivals sent,
        openSocket system address.family world = (.ok socket, opened) ∧
        system.connect address opened = (.ok (), connected) ∧
        system.send (echoes.request address.family).encode connected = (.ok arrivals, sent) ∧
        ∃ before arrival later, arrivals = before ++ arrival :: later ∧
          arrival.time = latency ∧ latency < wait ∧
          Answers (isReply address.family socket (echoes.request address.family)) arrival ∧
          ∀ earlier ∈ before,
            verdict? (isReply address.family socket (echoes.request address.family)) earlier =
              none := by
  rw [measure_eq_ok_iff_awaitReply]
  refine exists_congr fun socket => exists_congr fun opened => exists_congr fun connected =>
    exists_congr fun arrivals => exists_congr fun sent => and_congr_right fun _ =>
      and_congr_right fun _ => and_congr_right fun sending => ?_
  exact awaitReply_eq_ok_iff _ wait latency arrivals (ordered _ _ _ _ sending)

end MeshNode.SystemEcho
