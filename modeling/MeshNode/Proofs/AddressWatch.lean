import MeshNode.Proofs.AgentStarts
import MeshNode.Proofs.Runs

/-!
# What the coordinator knows of a moved address

An agent publishes its endpoints when it joins, and again whenever a recheck shows that its
address has moved. It adopts the new address before it publishes it, and keeps it whatever
comes of that, so that three places of the agent always agree: what it knows of its
endpoints, what it would register, and what its paths are computed from. The coordinator
is the fourth.

It agrees as well, as long as the publication that was tried last was accepted: then the
address of the node stands in the accepted list as one that a reflector reported, unless no
reflector answered at the start and no recheck showed another address since. A publication
that failed is not tried again, since the next recheck is compared with the address that
was adopted. And an address that the node had only assumed is never published, also where
a reflector confirms it.
-/

namespace MeshNode

/-- Whether an address is published as one that a reflector reported. -/
def Registration.showsReflexive (endpoints : List Endpoint) (address : SocketAddress) : Bool :=
  endpoints.any fun endpoint => !endpoint.source.isLocal && endpoint.address = address.print

/-- The endpoints of a discovery show its address exactly if a reflector reported it. -/
theorem Registration.showsReflexive_advertised (discovery : Discovery) :
    showsReflexive (advertisedEndpoints discovery) discovery.reflexive =
      discovery.reflector.isSome := by
  cases reported : discovery.reflector <;>
    simp [showsReflexive, advertisedEndpoints, reported, EndpointSource.isLocal]

/-- A discovery names a reflector exactly if one answered. -/
theorem Discovery.classify_reflector (own : SocketAddress) (answers : List Answer) :
    (classify own answers).reflector.isSome = !(classify own answers).fallback := by
  cases answers <;> rfl

/-- An attempt to publish endpoints, and whether the coordinator accepted them. -/
structure Publication where
  endpoints : List Endpoint
  accepted : Bool
  deriving DecidableEq

namespace Publication

/-- The endpoints that the coordinator accepted last. -/
def lastAccepted (first : List Endpoint) (log : List Publication) : List Endpoint :=
  log.foldl (fun known publication =>
    if publication.accepted then publication.endpoints else known) first

theorem lastAccepted_of_last (first : List Endpoint) (log : List Publication)
    (publication : Publication) (last : log.getLast? = some publication)
    (accepted : publication.accepted = true) :
    lastAccepted first log = publication.endpoints := by
  obtain ⟨earlier, rfl⟩ := List.getLast?_eq_some_iff.mp last
  rw [lastAccepted, List.foldl_append, List.foldl_cons, List.foldl_nil, if_pos accepted]

/-- Publications account for the way from one discovery to another: where there are none, nothing
has moved; and the last of them published the other, which a reflector reported. -/
structure Accounts (log : List Publication) (before after : Discovery) : Prop where
  still : log = [] → after = before
  last : ∀ publication ∈ log.getLast?,
    publication.endpoints = Registration.advertisedEndpoints after ∧
      after.reflector.isSome = true

variable {log more : List Publication} {before middle after : Discovery}

/-- Where nothing is published, nothing has moved. -/
theorem Accounts.nil (discovery : Discovery) : Accounts [] discovery discovery where
  still _ := rfl
  last _ member := nomatch member

theorem Accounts.append (first : Accounts log before middle) (second : Accounts more middle after) :
    Accounts (log ++ more) before after where
  still none := by
    obtain ⟨nothing, noMore⟩ := List.append_eq_nil_iff.mp none
    rw [second.still noMore, first.still nothing]
  last := by
    cases more with
    | nil =>
      rw [List.append_nil, second.still rfl]
      exact first.last
    | cons publication rest =>
      have found : (publication :: rest).getLast?.isSome = true := by simp
      rw [List.getLast?_append, Option.or_of_isSome found]
      exact second.last

/-- If the last publication was accepted, the endpoints of the discovery were accepted last. -/
theorem Accounts.lastAccepted_eq (accounts : Accounts log before after)
    (accepted : ∀ publication ∈ log.getLast?, publication.accepted = true) :
    lastAccepted (Registration.advertisedEndpoints before) log =
      Registration.advertisedEndpoints after := by
  cases found : log.getLast? with
  | none =>
    obtain rfl : log = [] := List.getLast?_eq_none_iff.mp found
    rw [accounts.still rfl]
    rfl
  | some publication =>
    rw [← (accounts.last publication found).1]
    exact lastAccepted_of_last _ log publication found (accepted publication found)

/-- A reflector is behind the discovery if it was before, and after every publication. -/
theorem Accounts.reported_iff (accounts : Accounts log before after) :
    after.reflector.isSome = true ↔ before.reflector.isSome = true ∨ log ≠ [] := by
  cases found : log.getLast? with
  | none =>
    obtain rfl : log = [] := List.getLast?_eq_none_iff.mp found
    rw [accounts.still rfl]
    simp
  | some publication =>
    have published : log ≠ [] := List.ne_nil_of_mem (List.mem_of_getLast? found)
    exact iff_of_true (accounts.last publication found).2 (Or.inr published)

end Publication

namespace Agent

variable {World : Type} (around : Surroundings World)

/-- The recheck of an agent's address. -/
def addressRecheck (agent : Agent World) : Except Stun.Failure Recheck × World :=
  Discovery.recheck around.reflectors
    (Discovery.resolve around.lookup (Discovery.namesOrDefault agent.settings.stunServers))
    agent.node.world

/-- What an agent publishes on a recheck: where its address has moved, the registration that it
holds afterwards. -/
def publicationOn (result : Except Stun.Failure Recheck) (agent : Agent World) :
    Option Publication :=
  match result with
  | .error _ => none
  | .ok recheck =>
    if agent.discovery.movedBy recheck then
      let registration := (move around recheck agent).registration
      let (answer, _) := agent.client.register around.transport registration agent.node.world
      some ⟨registration.endpoints, answer.isOk⟩
    else none

/-- What an agent publishes when one of its timers fires. -/
def publicationAt (timer : Timer) (agent : Agent World) : Option Publication :=
  match timer with
  | .recheck =>
    if agent.watchesAddress then
      let (result, world) := addressRecheck around agent
      publicationOn around result (inWorld world agent)
    else none
  | .reconcile => none
  | .probe => none

/-- What an agent publishes while its timers fire, in order, behind its first registration. -/
def publications : List Timer → Agent World → List Publication
  | [], _ => []
  | timer :: rest, agent =>
    (publicationAt around timer agent).toList ++
      match onTimer around timer agent with
      | (.error _, _) => []
      | (.ok agent, _) => publications rest agent

/-- What an agent knows of its endpoints is what it registers and what its paths are computed
from. -/
structure Published (agent : Agent World) : Prop where
  registered : agent.registration.endpoints = Registration.advertisedEndpoints agent.discovery
  known : agent.node.localNode.reflexive = agent.discovery.reflexive

section Step

variable {around} {agent next : Agent World}

/-- Agents that are alike in what they know and register are alike in their agreement. -/
theorem Published.congr (published : agent.Published) (discovery : next.discovery = agent.discovery)
    (registration : next.registration = agent.registration)
    (localNode : next.node.localNode = agent.node.localNode) : next.Published where
  registered := by rw [registration, discovery, published.registered]
  known := by rw [localNode, discovery, published.known]

/-- The reconciler takes no part in the watch of the address. -/
theorem onReconcile_keeps (acted : (onReconcile around agent).1 = .ok next) :
    next.discovery = agent.discovery ∧ next.registration = agent.registration ∧
      next.node.localNode = agent.node.localNode := by
  unfold onReconcile at acted
  split at acted
  · simp only [restore, afterAttempt] at acted
    split at acted <;> cases acted <;> exact ⟨rfl, rfl, rfl⟩
  · cases acted
    exact ⟨rfl, rfl, Node.tick_localNode around.tunnel _ _⟩

/-- A recheck keeps the places of the agent in agreement, and what it publishes accounts for the
move. -/
theorem onRecheck_published (published : agent.Published)
    (result : Except Stun.Failure Recheck) :
    let next := onRecheck around result agent
    next.Published ∧
      Publication.Accounts (publicationOn around result agent).toList agent.discovery
        next.discovery := by
  intro next
  have unmoved := Publication.Accounts.nil agent.discovery
  cases result with
  | error failure => exact ⟨published, unmoved⟩
  | ok recheck =>
    simp only [next, onRecheck, publicationOn]
    split
    · refine ⟨⟨rfl, rfl⟩, by simp, ?_⟩
      rintro _ ⟨⟩
      exact ⟨rfl, rfl⟩
    · exact ⟨published, unmoved⟩

/-- Whatever timer fires, the places of the agent stay in agreement, and what it publishes accounts
for the move. -/
theorem onTimer_published (published : agent.Published) (timer : Timer)
    (acted : (onTimer around timer agent).1 = .ok next) :
    next.Published ∧
      Publication.Accounts (publicationAt around timer agent).toList agent.discovery
        next.discovery := by
  have unmoved := Publication.Accounts.nil agent.discovery
  cases timer with
  | reconcile =>
    obtain ⟨discovery, registration, localNode⟩ := onReconcile_keeps acted
    exact ⟨published.congr discovery registration localNode, discovery ▸ unmoved⟩
  | recheck =>
    cases acted
    simp only [publicationAt]
    cases agent.watchesAddress with
    | false => exact ⟨published, unmoved⟩
    | true =>
      have asked : (inWorld (addressRecheck around agent).2 agent).Published :=
        published.congr rfl rfl rfl
      exact onRecheck_published asked _
  | probe =>
    cases acted
    exact ⟨published.congr rfl rfl rfl, unmoved⟩

/-- However long the timers fire, the places of the agent stay in agreement, and what it publishes
accounts for all moves. -/
theorem work_published (published : agent.Published) (timers : List Timer)
    (worked : (work around timers agent).1 = .ok next) :
    next.Published ∧
      Publication.Accounts (publications around timers agent) agent.discovery next.discovery := by
  induction timers generalizing agent with
  | nil =>
    cases worked
    exact ⟨published, Publication.Accounts.nil _⟩
  | cons timer rest inductionHypothesis =>
    unfold work at worked
    unfold publications
    rcases acted : onTimer around timer agent with ⟨_ | middle, after⟩
    all_goals rw [acted] at worked
    · cases worked
    · have acted : (onTimer around timer agent).1 = .ok middle := by rw [acted]
      obtain ⟨kept, moved⟩ := onTimer_published published timer acted
      obtain ⟨keptOn, movedOn⟩ := inductionHypothesis kept worked
      exact ⟨keptOn, moved.append movedOn⟩

end Step

variable {around}

/-- The discovery of a start names a reflector exactly if one answered. -/
theorem discoverEndpoints_reflector {settings : Settings} {world : World} {discovery : Discovery}
    (discovered : (discoverEndpoints around settings world).1 = .ok discovery) :
    discovery.reflector.isSome = !discovery.fallback := by
  unfold discoverEndpoints at discovered
  split at discovered
  · cases discovered
  · cases discovered
    exact Discovery.classify_reflector _ _

/-- The places of an agent agree when it starts, and a reflector reported its address unless none
answered. -/
theorem start_published {settings : Settings} {world : World} {origin : Agent World}
    (started : (start around settings world).1 = .ok origin) :
    origin.Published ∧ origin.discovery.reflector.isSome = !origin.discovery.fallback := by
  rcases start_cases around settings world with
    ⟨_, _, ended⟩ | ⟨_, _, ended⟩ | ⟨_, _, ended⟩ | ⟨_, _, ended⟩ |
      ⟨device, vpc, discovery, discovered, ended⟩
  all_goals rw [ended] at started
  · cases started
  · cases started
  · cases started
  · cases started
  · obtain ⟨record, rfl⟩ := join_ok around settings device _ vpc discovery _ origin started
    exact ⟨⟨rfl, rfl⟩, discoverEndpoints_reflector discovered⟩

/-- A result that passes a test is there. -/
theorem exists_ok_of_any {ε α : Type} {result : Except ε α} {test : α → Bool}
    (passes : result.toOption.any test = true) :
    ∃ value, result = .ok value ∧ test value = true := by
  cases result with
  | error _ => cases passes
  | ok value => exact ⟨value, rfl, passes⟩

/-- The coordinator knows the address of an agent as long as the publication that was tried last was
accepted: then what it accepted last are the agent's endpoints, and they show its address as one
that a reflector reported, unless no reflector answered at the start and nothing was published
since. -/
theorem published_address_current (settings : Settings) (world : World) (origin : Agent World)
    (started : (start around settings world).1 = .ok origin) (timers : List Timer)
    (final : Agent World) (worked : (work around timers origin).1 = .ok final)
    (accepted : ∀ publication ∈ (publications around timers origin).getLast?,
      publication.accepted = true) :
    let log := publications around timers origin
    let known :=
      Publication.lastAccepted (Registration.advertisedEndpoints origin.discovery) log
    known = Registration.advertisedEndpoints final.discovery ∧
      (Registration.showsReflexive known final.node.localNode.reflexive = true ↔
        origin.discovery.fallback = false ∨ log ≠ []) := by
  intro log known
  obtain ⟨published, reported⟩ := start_published started
  obtain ⟨publishedLast, accounts⟩ := work_published published timers worked
  have current : known = Registration.advertisedEndpoints final.discovery :=
    accounts.lastAccepted_eq accepted
  refine ⟨current, ?_⟩
  rw [current, publishedLast.known, Registration.showsReflexive_advertised, accounts.reported_iff,
    reported, Bool.not_eq_true']

/-- An address that moves is published, and known after that. -/
theorem moved_address_published :
    let around := ScriptedHost.surroundings
    let moved : SocketAddress := ⟨.v4 0x02020202, 51820, 0⟩
    let world : ScriptedHost :=
      ⟨[ScriptedHost.network, ScriptedHost.registered, ScriptedHost.registered],
        [some ⟨.v4 0x01010101, 51820, 0⟩, some moved]⟩
    ∃ origin final,
      (start around (ScriptedHost.settings (some ⟨"token"⟩)) world).1 = .ok origin ∧
      (work around [.recheck] origin).1 = .ok final ∧
      final.node.localNode.reflexive = moved ∧
      Registration.showsReflexive
        (Publication.lastAccepted (Registration.advertisedEndpoints origin.discovery)
          (publications around [.recheck] origin))
        final.node.localNode.reflexive = true := by
  intro around moved world
  have evaluated :
      (start around (ScriptedHost.settings (some ⟨"token"⟩)) world).1.toOption.any (fun origin =>
        (work around [.recheck] origin).1.toOption.any fun final =>
          decide (final.node.localNode.reflexive = moved) &&
            (publications around [.recheck] origin).map (·.accepted) == [true]) = true := by
    decide +kernel
  obtain ⟨origin, started, evaluated⟩ := exists_ok_of_any evaluated
  obtain ⟨final, worked, evaluated⟩ := exists_ok_of_any evaluated
  rw [Bool.and_eq_true, decide_eq_true_eq, beq_iff_eq] at evaluated
  obtain ⟨reached, granted⟩ := evaluated
  have accepted : ∀ publication ∈ (publications around [.recheck] origin).getLast?,
      publication.accepted = true := by
    intro publication last
    have member := List.mem_map_of_mem (f := (·.accepted)) (List.mem_of_getLast? last)
    rw [granted] at member
    exact List.mem_singleton.mp member
  have published : publications around [.recheck] origin ≠ [] := by
    intro nothing
    rw [nothing] at granted
    cases granted
  have current := published_address_current _ world origin started [.recheck] final worked accepted
  exact ⟨origin, final, started, worked, reached, current.2.mpr (Or.inr published)⟩

/-- After the timers, one more recheck is answered and publishes nothing, and still what the
coordinator accepted last does not show the address of the agent. -/
def leavesStale (around : Surroundings World) (timers : List Timer) (origin : Agent World) : Bool :=
  match (work around timers origin).1 with
  | .error _ => false
  | .ok agent =>
    agent.watchesAddress && (addressRecheck around agent).1.isOk &&
      publicationAt around .recheck agent == none &&
      !Registration.showsReflexive
        (Publication.lastAccepted (Registration.advertisedEndpoints origin.discovery)
          (publications around timers origin))
        (recheckAddress around agent).node.localNode.reflexive

/-- A publication that failed is not tried again by a later recheck that is answered. And where no
reflector answered at the start, an answer with the address that was assumed publishes nothing. -/
theorem answered_recheck_leaves_stale :
    let around := ScriptedHost.surroundings
    let settings := ScriptedHost.settings (some ⟨"token"⟩)
    let home : SocketAddress := ⟨around.ownAddress, settings.listenPort, 0⟩
    let moved : SocketAddress := ⟨.v4 0x02020202, 51820, 0⟩
    (start around settings
      ⟨[ScriptedHost.network, ScriptedHost.registered],
        [some home, some moved, some moved]⟩).1.toOption.any
          (leavesStale around [.recheck]) = true ∧
      (start around settings
        ⟨[ScriptedHost.network, ScriptedHost.registered],
          [none, none, none, some home]⟩).1.toOption.any (leavesStale around []) = true := by
  decide +kernel

end Agent

end MeshNode
