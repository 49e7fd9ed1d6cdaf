import Mathlib.Data.List.Chain
import MeshNode.Proofs.AgentStarts
import MeshNode.Proofs.Calls

/-!
# Renewing a session

An agent that has credentials stored gives up for want of a session only after its last
call was refused. At work this call is a login: a listing that is refused is followed by a
login, and by nothing else but registrations of a moved address, and only a refused login
ends the work.

The start knows no such second chance. It logs in only where the settings bring no token,
and the first call that is refused ends it, also a call for which nothing but the token of
the settings was too old. So an agent that is started again with an old token stops,
although it has credentials that would be accepted, and that it would use once at work.
-/

namespace MeshNode

/-- Whether an agent gave up because the coordinator does not let it in. -/
def AgentError.isSession : AgentError → Bool
  | .coordinator .unauthorized => true
  | .coordinator .noCredentials => true
  | .reauthentication _ => true
  | _ => false

namespace Coordinator

variable (client : Coordinator)

/-- The paths of a client's calls tell the calls apart. -/
@[simp] theorem urlOf_inj (path other : List String) :
    client.urlOf path = client.urlOf other ↔ path = other := by
  constructor
  · intro same
    have paths : "api" :: path = "api" :: other := congrArg Url.path same
    exact (List.cons.inj paths).2
  · rintro rfl
    rfl

/-- Two clients of one service differ at most in their tokens. -/
def SameService (other : Coordinator) : Prop := other = { client with token := other.token }

section SameService

variable {client} {other : Coordinator} (same : client.SameService other)

include same

theorem SameService.urlOf_eq (path : List String) : other.urlOf path = client.urlOf path := by
  rw [same]
  rfl

theorem SameService.vpc_eq : other.vpc = client.vpc := by
  rw [same]

theorem SameService.credentials_eq : other.credentials = client.credentials := by
  rw [same]

end SameService

/-- The addresses that a start calls, in order: a login only where there is no session. -/
def startUrls : List Url :=
  (if client.hasSession then [] else [client.urlOf ["login"]]) ++
    ([client.urlOf ["vpcs", client.vpc.print]] ++ [client.urlOf ["devices"]])

end Coordinator

variable {World : Type}

/-! ## The start -/

/-- From one state to another calls were made to some of the given addresses, in order and to each
once at most; and if the last holds, the last call was refused. -/
def Makes (calls : World → List ApiCall) (urls : List Url) (before after : World)
    (lost : Prop) : Prop :=
  ∃ made, calls after = calls before ++ made ∧
    List.Sublist (made.map fun call => call.request.url) urls ∧
    (lost → ∃ earlier call, made = earlier ++ [call] ∧ call.refused = true)

section Makes

variable {calls : World → List ApiCall} {before middle after : World} {urls more : List Url}
  {request : ApiRequest} {lost : Prop}

theorem Asked.makes (asked : Asked calls request before after lost) :
    Makes calls [request.url] before after lost := by
  obtain ⟨made, recorded, own, refused⟩ := asked
  refine ⟨made.toList, recorded, ?_, fun holds => ?_⟩
  · cases made with
    | none => exact List.nil_sublist _
    | some call =>
      rw [Option.toList_some, List.map_singleton, own call rfl]
  · obtain ⟨call, rfl, denied⟩ := refused.mpr holds
    exact ⟨[], call, rfl, denied⟩

/-- Where nothing is put on record, nothing is lost. -/
theorem Makes.of_same (same : calls after = calls before) (kept : ¬lost) :
    Makes calls urls before after lost :=
  ⟨[], by rw [same, List.append_nil], List.nil_sublist _, fun holds => absurd holds kept⟩

/-- States with the same records are alike. -/
theorem Makes.congr {first last : World} (makes : Makes calls urls before after lost)
    (sameFirst : calls first = calls before) (sameLast : calls last = calls after) :
    Makes calls urls first last lost := by
  rw [Makes, sameFirst, sameLast]
  exact makes

theorem Makes.mono {other : Prop} (makes : Makes calls urls before after lost)
    (weaker : other → lost) : Makes calls urls before after other := by
  obtain ⟨made, recorded, called, refused⟩ := makes
  exact ⟨made, recorded, called, fun holds => refused (weaker holds)⟩

/-- A step that ends the start leaves the addresses behind it without a call. -/
theorem Makes.stop (makes : Makes calls urls before after lost) :
    Makes calls (urls ++ more) before after lost := by
  obtain ⟨made, recorded, called, refused⟩ := makes
  exact ⟨made, recorded, called.trans (List.sublist_append_left _ _), refused⟩

/-- One step after another: only the second can lose the session. -/
theorem Makes.append {other : Prop} (first : Makes calls urls before middle other)
    (second : Makes calls more middle after lost) :
    Makes calls (urls ++ more) before after lost := by
  obtain ⟨made, recorded, called, _⟩ := first
  obtain ⟨added, recordedNext, calledNext, refused⟩ := second
  refine ⟨made ++ added, ?_, ?_, fun holds => ?_⟩
  · rw [recordedNext, recorded, List.append_assoc]
  · rw [List.map_append]
    exact called.append calledNext
  · obtain ⟨earlier, call, rfl, denied⟩ := refused holds
    exact ⟨made ++ earlier, call, (List.append_assoc _ _ _).symm, denied⟩

end Makes

namespace Agent

variable {around : Surroundings World} {calls : World → List ApiCall}
  (records : around.Records calls)

/-- Whether a result is the end of an agent that was not let in. -/
def losesSession {α : Type} : Except AgentError α → Bool
  | .ok _ => false
  | .error error => error.isSession

/-- A call that does not fail for want of credentials loses the session only if it is refused. -/
theorem unauthorized_of_isSession {α : Type} {result : Except CoordinatorError α}
    {error : CoordinatorError} (failed : result = .error error)
    (known : result ≠ .error .noCredentials)
    (session : (AgentError.coordinator error).isSession = true) : error = .unauthorized := by
  cases error <;> simp_all [AgentError.isSession]

/-- A key that cannot be had is no matter of the session. -/
theorem isSession_of_deviceKey (around : Surroundings World) (world : World) (error : AgentError)
    (failed : (deviceKey around world).1 = .error error) : error.isSession = false := by
  unfold deviceKey at failed
  dsimp only [Except.mapError] at failed
  split at failed
  · cases failed
    rfl
  · cases failed

/-- Endpoints that cannot be discovered are no matter of the session. -/
theorem isSession_of_discoverEndpoints (around : Surroundings World) (settings : Settings)
    (world : World) (error : AgentError)
    (failed : (discoverEndpoints around settings world).1 = .error error) :
    error.isSession = false := by
  unfold discoverEndpoints at failed
  split at failed
  · cases failed
    rfl
  · cases failed

include records

/-- Joining calls for the registration alone. -/
theorem join_calls (settings : Settings) (key : PublicKey) (client : Coordinator) (vpc : Vpc)
    (discovery : Discovery) (world : World) :
    let joined := join around settings key client vpc discovery world
    Makes calls [client.urlOf ["devices"]] world joined.2 (losesSession joined.1 = true) := by
  intro joined
  have registered : Makes calls [client.urlOf ["devices"]] world _ _ :=
    (records.call PeerRecord.ofJson?
      (client.registerRequest (firstRegistration around settings key discovery)) world).makes
  have known := Coordinator.call_ne_noCredentials around.transport PeerRecord.ofJson?
    (client.registerRequest (firstRegistration around settings key discovery)) world
  rcases join_cases around settings key client vpc discovery world with
    ⟨error, failed, ended⟩ | ⟨text, ended⟩ | ⟨interface, error, ended⟩ |
      ⟨record, interface, _, ended⟩
  · simp only [joined, ended]
    refine registered.mono fun lost => ?_
    exact failed.trans (congrArg _ (unauthorized_of_isSession failed known lost))
  · simp only [joined, ended]
    exact registered.mono fun lost => nomatch lost
  · simp only [joined, ended]
    exact (registered.congr rfl (records.setUp interface _)).mono
      fun lost => nomatch lost
  · simp only [joined, ended]
    exact (registered.congr rfl (records.setUp interface _)).mono fun lost => nomatch lost

/-- Opening a session calls for a login, unless there is a session. -/
theorem openSession_calls (client : Coordinator) (credentials : Credentials)
    (stored : client.credentials = some credentials) (world : World) :
    let opened := openSession around client world
    client.SameService opened.2.1 ∧
      Makes calls (if client.hasSession then [] else [client.urlOf ["login"]]) world opened.2.2
        (losesSession opened.1 = true) := by
  intro opened
  simp only [opened, openSession]
  by_cases session : client.hasSession = true
  · rw [if_pos session, if_pos session]
    exact ⟨rfl, Makes.of_same rfl fun lost => nomatch lost⟩
  · rw [if_neg session, if_neg session]
    obtain ⟨call, recorded, own, refused⟩ := records.login client credentials stored world
    have called : Makes calls [client.urlOf ["login"]] world _ _ :=
      (Asked.of_call recorded own refused).makes
    have known := Coordinator.call_ne_noCredentials around.transport Coordinator.token?
      (client.loginRequest credentials) world
    rcases client.login_cases around.transport credentials stored world with
      ⟨token, answer, logged⟩ | ⟨error, answer, logged⟩
    · rw [logged] at called ⊢
      exact ⟨rfl, called.mono fun lost => nomatch lost⟩
    · rw [logged] at called ⊢
      refine ⟨rfl, called.mono fun lost => ?_⟩
      exact congrArg _ (unauthorized_of_isSession answer known lost)

/-- The start makes its calls in their order, each once at most, and loses the session only with
the last of them. An agent at work began with the calls of its start on record. -/
theorem start_calls (settings : Settings) (credentials : Credentials)
    (stored : settings.credentials = some credentials) (world : World) :
    let client := Coordinator.ofSettings settings
    let origin := start around settings world
    Makes calls client.startUrls world origin.2 (losesSession origin.1 = true) ∧
      ∀ agent, origin.1 = .ok agent →
        agent.node.world = origin.2 ∧ client.SameService agent.client ∧
          agent.awaitsSession = false := by
  intro client origin
  let keyed := deviceKey around world
  let session := openSession around client keyed.2
  let described := session.2.1.fetchVpc around.transport session.2.2
  let discovered := discoverEndpoints around settings described.2
  have sameKey : calls keyed.2 = calls world := records.deviceKey world
  obtain ⟨service, opened⟩ := openSession_calls records client credentials stored keyed.2
  have opened : Makes calls _ world session.2.2 (losesSession session.1 = true) :=
    opened.congr sameKey.symm rfl
  have asked : Makes calls [client.urlOf ["vpcs", client.vpc.print]] session.2.2 described.2
      (described.1 = .error .unauthorized) := by
    have called : Makes calls [session.2.1.urlOf ["vpcs", session.2.1.vpc.print]] _ _ _ :=
      (records.call Vpc.ofJson? session.2.1.vpcRequest session.2.2).makes
    rwa [service.urlOf_eq, service.vpc_eq] at called
  have known := Coordinator.call_ne_noCredentials around.transport Vpc.ofJson?
    session.2.1.vpcRequest session.2.2
  have found : calls discovered.2 = calls described.2 :=
    records.discoverEndpoints settings described.2
  rcases start_cases around settings world with ⟨error, failed, ended⟩ | ⟨error, failed, ended⟩ |
    ⟨error, failed, ended⟩ | ⟨error, failed, ended⟩ | ⟨device, vpc, discovery, _, ended⟩
  · simp only [origin, ended]
    refine ⟨Makes.of_same sameKey fun lost => ?_, fun agent started => by cases started⟩
    exact absurd lost (Bool.eq_false_iff.mp (isSession_of_deviceKey around world error failed))
  · simp only [origin, ended]
    refine ⟨(opened.mono fun lost => ?_).stop, fun agent started => by cases started⟩
    rw [failed]
    exact lost
  · simp only [origin, ended]
    refine ⟨opened.append (asked.mono fun lost => ?_).stop, fun agent started => by cases started⟩
    exact failed.trans (congrArg _ (unauthorized_of_isSession failed known lost))
  · simp only [origin, ended]
    refine ⟨opened.append ((asked.congr rfl found).mono fun lost => ?_).stop,
      fun agent started => by cases started⟩
    exact absurd lost (Bool.eq_false_iff.mp
      (isSession_of_discoverEndpoints around settings described.2 error failed))
  · simp only [origin, ended]
    have joined := join_calls records settings device session.2.1 vpc discovery discovered.2
    rw [service.urlOf_eq] at joined
    refine ⟨opened.append ((asked.congr rfl found).append joined), ?_⟩
    intro agent started
    obtain ⟨record, rfl⟩ := join_ok around settings device _ vpc discovery _ agent started
    exact ⟨rfl, service, rfl⟩

end Agent

/-! ## At work -/

/-- Whether a call publishes a registration. -/
def ApiCall.isRegistration (client : Coordinator) (call : ApiCall) : Bool :=
  call.request.url = client.urlOf ["devices"]

/-- If the first call is a refused listing, the next one is a login. -/
def RenewedBy (client : Coordinator) (credentials : Credentials) (call next : ApiCall) : Prop :=
  call.request.url = client.listingRequest.url → call.refused = true →
    next.request = client.loginRequest credentials

/-- But for registrations, a record renews the session where it was lost: it begins with a login
if the session is awaited, and has one behind every refused listing. -/
structure Renews (client : Coordinator) (credentials : Credentials) (awaited : Bool)
    (record : List ApiCall) : Prop where
  first : awaited = true → ∀ next ∈ (record.filter (!·.isRegistration client)).head?,
    next.request = client.loginRequest credentials
  chain : (record.filter (!·.isRegistration client)).IsChain (RenewedBy client credentials)

namespace Renews

variable {client : Coordinator} {credentials : Credentials} {awaited later : Bool}
  {record : List ApiCall} {call : ApiCall}

theorem nil : Renews client credentials awaited [] where
  first _ next member := by simp at member
  chain := List.IsChain.nil

/-- What renews a session that is awaited also does where none is. -/
theorem unawaited (renews : Renews client credentials awaited record) :
    Renews client credentials false record where
  first waits := by cases waits
  chain := renews.chain

theorem registration (renews : Renews client credentials awaited record)
    (publishes : call.request.url = client.urlOf ["devices"]) :
    Renews client credentials awaited (call :: record) := by
  have skipped : (call :: record).filter (!·.isRegistration client) =
      record.filter (!·.isRegistration client) := by
    simp [ApiCall.isRegistration, publishes]
  exact ⟨by rw [skipped]; exact renews.first, by rw [skipped]; exact renews.chain⟩

theorem login (renews : Renews client credentials later record)
    (logsIn : call.request = client.loginRequest credentials) :
    Renews client credentials awaited (call :: record) := by
  have url : call.request.url = client.urlOf ["login"] := by
    rw [logsIn]
    rfl
  have kept : (call :: record).filter (!·.isRegistration client) =
      call :: record.filter (!·.isRegistration client) := by
    simp [ApiCall.isRegistration, url]
  refine ⟨fun _ next member => ?_, ?_⟩
  · rw [kept, List.head?_cons, Option.mem_some] at member
    rwa [← member]
  · rw [kept, List.isChain_cons]
    refine ⟨fun next _ lists => ?_, renews.chain⟩
    rw [url, Coordinator.listingRequest, Coordinator.urlOf_inj] at lists
    simp at lists

theorem listing (renews : Renews client credentials later record)
    (lists : call.request.url = client.listingRequest.url)
    (waits : call.refused = true → later = true) :
    Renews client credentials false (call :: record) := by
  have kept : (call :: record).filter (!·.isRegistration client) =
      call :: record.filter (!·.isRegistration client) := by
    simp [ApiCall.isRegistration, lists, Coordinator.listingRequest]
  constructor
  · rintro ⟨⟩
  · rw [kept, List.isChain_cons]
    exact ⟨fun next member _ refused => renews.first (waits refused) next member, renews.chain⟩

end Renews

namespace Agent

variable {around : Surroundings World} {calls : World → List ApiCall}
  {client : Coordinator} {credentials : Credentials}

/-- What the action of a timer puts on record, and what it leaves: an agent of the same service in
the state that was reached, for which a record that renews the session is continued by one that
does so for the agent before; or an end, whose last call is a refused login. -/
structure Continues (calls : World → List ApiCall) (client : Coordinator)
    (credentials : Credentials) (agent : Agent World)
    (acted : Except AgentError (Agent World) × World) (made : List ApiCall) : Prop where
  recorded : calls acted.2 = calls agent.node.world ++ made
  reached : ∀ next, acted.1 = .ok next → next.node.world = acted.2
  service : ∀ next, acted.1 = .ok next → client.SameService next.client
  renews : ∀ next, acted.1 = .ok next → ∀ record,
    Renews client credentials next.awaitsSession record →
      Renews client credentials agent.awaitsSession (made ++ record)
  ended : ∀ error, acted.1 = .error error → ∃ call, made = [call] ∧
    call.request = client.loginRequest credentials ∧ call.refused = true

theorem Continues.working {agent next : Agent World} {made : List ApiCall}
    (recorded : calls next.node.world = calls agent.node.world ++ made)
    (service : client.SameService next.client)
    (renews : ∀ record, Renews client credentials next.awaitsSession record →
      Renews client credentials agent.awaitsSession (made ++ record)) :
    Continues calls client credentials agent (.ok next, next.node.world) made where
  recorded := recorded
  reached := by
    rintro _ ⟨⟩
    rfl
  service := by
    rintro _ ⟨⟩
    exact service
  renews := by
    rintro _ ⟨⟩
    exact renews
  ended := by
    rintro _ ⟨⟩

theorem Continues.over {agent : Agent World} {error : AgentError} {after : World} {call : ApiCall}
    (recorded : calls after = calls agent.node.world ++ [call])
    (asked : call.request = client.loginRequest credentials) (refused : call.refused = true) :
    Continues calls client credentials agent (.error error, after) [call] where
  recorded := recorded
  reached := by
    rintro _ ⟨⟩
  service := by
    rintro _ ⟨⟩
  renews := by
    rintro _ ⟨⟩
  ended := fun _ _ => ⟨call, rfl, asked, refused⟩

section Timers

variable (records : around.Records calls) (agent : Agent World)
  (same : client.SameService agent.client)

include records same

/-- An attempt to restore the session is a login, and ends the agent only if it is refused. -/
theorem restore_continues (stored : client.credentials = some credentials) :
    ∃ made, Continues calls client credentials agent (restore around agent) made := by
  have own : agent.client.credentials = some credentials := same.credentials_eq.trans stored
  have request : agent.client.loginRequest credentials = client.loginRequest credentials := by
    rw [same]
    rfl
  obtain ⟨call, recorded, asked, refused⟩ :=
    records.login agent.client credentials own agent.node.world
  rw [request] at asked
  have known := Coordinator.call_ne_noCredentials around.transport Coordinator.token?
    (agent.client.loginRequest credentials) agent.node.world
  refine ⟨[call], ?_⟩
  simp only [restore, Coordinator.reconnect]
  rcases agent.client.login_cases around.transport credentials own agent.node.world with
    ⟨token, answer, logged⟩ | ⟨error, answer, logged⟩
  · rw [logged] at recorded ⊢
    refine Continues.working recorded ?_ fun record renews => renews.login asked
    rw [Coordinator.SameService, same]
  · rw [logged] at recorded refused ⊢
    rw [answer] at known
    cases error with
    | unauthorized => exact Continues.over recorded asked (refused.mpr rfl)
    | noCredentials => exact absurd rfl known
    | transport reason => exact Continues.working recorded same fun _ renews => renews.login asked
    | malformed reason => exact Continues.working recorded same fun _ renews => renews.login asked
    | refused status text =>
      exact Continues.working recorded same fun _ renews => renews.login asked

/-- A tick asks for the listing, and waits for the session if that is refused. -/
theorem reconcile_continues (working : agent.awaitsSession = false) :
    let next := reconcile around agent
    ∃ made, Continues calls client credentials agent (.ok next, next.node.world) made := by
  intro next
  obtain ⟨made, recorded, own, refused⟩ := records.fetchListing agent.client agent.node.world
  have ticked : calls next.node.world =
      calls (agent.client.fetchListing around.transport agent.node.world).2 :=
    Node.tick_view records.tunnelled _ _
  have waits : (∃ call ∈ made, call.refused = true) → next.awaitsSession = true := by
    intro denied
    obtain ⟨reason, failed⟩ := refused.mp denied
    simp only [next, reconcile, awaitsSession, failed]
    rfl
  refine ⟨made.toList, Continues.working (ticked.trans recorded) same fun record renews => ?_⟩
  rw [working]
  cases made with
  | none => exact renews.unawaited
  | some call =>
    refine renews.listing ?_ fun denied => waits ⟨call, rfl, denied⟩
    rw [own call rfl]
    simp only [Coordinator.listingRequest, same.urlOf_eq, same.vpc_eq]

/-- A recheck at most publishes a registration. -/
theorem recheckAddress_continues :
    let next := recheckAddress around agent
    ∃ made, Continues calls client credentials agent (.ok next, next.node.world) made := by
  intro next
  let reflectors :=
    Discovery.resolve around.lookup (Discovery.namesOrDefault agent.settings.stunServers)
  let answered := Discovery.recheck around.reflectors reflectors agent.node.world
  have asked : calls answered.2 = calls agent.node.world :=
    records.recheck reflectors agent.node.world
  have ways : next = inWorld answered.2 agent ∨
      ∃ recheck, next = move around recheck (inWorld answered.2 agent) := by
    change onRecheck around answered.1 (inWorld answered.2 agent) = _ ∨
      ∃ recheck, onRecheck around answered.1 (inWorld answered.2 agent) = _
    unfold onRecheck
    split
    · exact Or.inl rfl
    · split
      · exact Or.inr ⟨_, rfl⟩
      · exact Or.inl rfl
  rcases ways with unmoved | ⟨recheck, moved⟩
  · rw [unmoved]
    exact ⟨[], Continues.working (asked.trans (List.append_nil _).symm) same fun _ renews => renews⟩
  · obtain ⟨made, recorded, own, _⟩ := records.call PeerRecord.ofJson?
      (agent.client.registerRequest
        (move around recheck (inWorld answered.2 agent)).registration) answered.2
    rw [asked] at recorded
    rw [moved]
    refine ⟨made.toList, Continues.working recorded same fun record renews => ?_⟩
    cases made with
    | none => exact renews
    | some call =>
      refine renews.registration ?_
      rw [own call rfl]
      exact same.urlOf_eq ["devices"]

theorem onTimer_continues (stored : client.credentials = some credentials) (timer : Timer) :
    ∃ made, Continues calls client credentials agent (onTimer around timer agent) made := by
  have idle : ∀ next : Agent World, next.node.world = agent.node.world →
      next.client = agent.client → next.awaitsSession = agent.awaitsSession →
        Continues calls client credentials agent (.ok next, next.node.world) [] := by
    intro next still kept phase
    refine Continues.working (by rw [still, List.append_nil]) (kept ▸ same) fun record renews => ?_
    rwa [phase] at renews
  cases timer with
  | reconcile =>
    unfold onTimer onReconcile
    cases awaits : agent.awaitsSession with
    | true => exact restore_continues records agent same stored
    | false => exact reconcile_continues records agent same awaits
  | recheck =>
    unfold onTimer
    dsimp only
    split
    · exact recheckAddress_continues records agent same
    · exact ⟨[], idle agent rfl rfl rfl⟩
  | probe => exact ⟨[], idle (onProbe around agent) rfl rfl rfl⟩

end Timers

/-- At work the session is renewed where it was lost, and only a refused login ends the agent. -/
theorem work_calls (records : around.Records calls)
    (stored : client.credentials = some credentials) (timers : List Timer) (agent : Agent World)
    (same : client.SameService agent.client) :
    let worked := work around timers agent
    ∃ made, calls worked.2 = calls agent.node.world ++ made ∧
      Renews client credentials agent.awaitsSession made ∧
      ∀ error, worked.1 = .error error → ∃ earlier call, made = earlier ++ [call] ∧
        call.request = client.loginRequest credentials ∧ call.refused = true := by
  induction timers generalizing agent with
  | nil => exact ⟨[], (List.append_nil _).symm, Renews.nil, fun error ended => nomatch ended⟩
  | cons timer rest inductionHypothesis =>
    obtain ⟨made, continues⟩ := onTimer_continues records agent same stored timer
    unfold work
    rcases acted : onTimer around timer agent with ⟨error | next, after⟩
    all_goals rw [acted] at continues
    · obtain ⟨call, rfl, asked, refused⟩ := continues.ended error rfl
      have nothing : Renews client credentials false [] := Renews.nil
      exact ⟨[call], continues.recorded, nothing.login asked,
        fun _ _ => ⟨[], call, rfl, asked, refused⟩⟩
    · obtain ⟨later, recorded, renews, ended⟩ :=
        inductionHypothesis next (continues.service next rfl)
      refine ⟨made ++ later, ?_, continues.renews next rfl later renews, fun error lost => ?_⟩
      · rw [← List.append_assoc, ← continues.recorded, ← continues.reached next rfl]
        exact recorded
      · obtain ⟨earlier, call, rfl, asked, refused⟩ := ended error lost
        exact ⟨made ++ earlier, call, (List.append_assoc _ _ _).symm, asked, refused⟩

/-- A whole run with stored credentials, over states that keep a record of the calls. Of the
addresses that a start calls, each is called once at most, in order, and a login is among them only
where the settings bring no token. At work every refused listing is followed by a login, but for
registrations. A run that ends for want of a session ends with a refused call; and this is a login,
unless it ended the start. -/
theorem session_lost_after_refusal (records : around.Records calls) (settings : Settings)
    (stored : settings.credentials = some credentials) (timers : List Timer) (world : World) :
    let client := Coordinator.ofSettings settings
    let origin := start around settings world
    let ending := run around settings timers world
    ∃ atStart atWork, calls origin.2 = calls world ++ atStart ∧
      calls ending.2 = calls world ++ (atStart ++ atWork) ∧
      List.Sublist (atStart.map fun call => call.request.url) client.startUrls ∧
      (atWork.filter (!·.isRegistration client)).IsChain (RenewedBy client credentials) ∧
      (losesSession ending.1 = true →
        ∃ earlier call, atStart ++ atWork = earlier ++ [call] ∧ call.refused = true ∧
          (call.request = client.loginRequest credentials ∨ losesSession origin.1 = true)) := by
  intro client origin ending
  obtain ⟨⟨atStart, began, inOrder, lost⟩, working⟩ :=
    start_calls records settings credentials stored world
  simp only [origin, ending, run]
  rcases started : start around settings world with ⟨error | agent, after⟩
  all_goals rw [started] at began lost working
  · refine ⟨atStart, [], began, by rw [List.append_nil]; exact began, inOrder, List.IsChain.nil, ?_⟩
    intro denied
    obtain ⟨earlier, call, split, refused⟩ := lost denied
    exact ⟨earlier, call, (List.append_nil _).trans split, refused, Or.inr denied⟩
  · obtain ⟨reached, service, working⟩ := working agent rfl
    obtain ⟨atWork, recorded, renews, ended⟩ := work_calls records stored timers agent service
    refine ⟨atStart, atWork, began, ?_, inOrder, renews.chain, fun denied => ?_⟩
    · rw [← List.append_assoc, ← began, ← reached]
      exact recorded
    · rcases failed : (work around timers agent).1 with error | last
      · obtain ⟨earlier, call, rfl, asked, refused⟩ := ended error failed
        exact ⟨atStart ++ earlier, call, (List.append_assoc _ _ _).symm, refused, Or.inl asked⟩
      · rw [failed] at denied
        cases denied

/-- At work the listing is refused, and so is the login that follows. The run ends with this
login. -/
theorem refused_login_ends_work :
    let settings := ScriptedHost.settings (some ⟨"token"⟩)
    let ending := run ScriptedHost.surroundings.logged settings [.reconcile, .reconcile]
      ([], ⟨[ScriptedHost.network, ScriptedHost.registered, ScriptedHost.refusal,
        ScriptedHost.refusal], []⟩)
    losesSession ending.1 = true ∧
      ∃ earlier call, ending.2.1 = earlier ++ [call] ∧ call.refused = true ∧
        call.request =
          (Coordinator.ofSettings settings).loginRequest ⟨"user", ⟨"password"⟩⟩ := by
  intro settings ending
  obtain ⟨lost, started⟩ : losesSession ending.1 = true ∧
      losesSession (start ScriptedHost.surroundings.logged settings
        ([], ⟨[ScriptedHost.network, ScriptedHost.registered, ScriptedHost.refusal,
          ScriptedHost.refusal], []⟩)).1 = false := by decide +kernel
  obtain ⟨atStart, atWork, _, recorded, _, _, last⟩ :=
    session_lost_after_refusal ScriptedHost.surroundings.records_logged settings rfl
      [.reconcile, .reconcile] ([], ⟨[ScriptedHost.network, ScriptedHost.registered,
        ScriptedHost.refusal, ScriptedHost.refusal], []⟩)
  obtain ⟨earlier, call, split, refused, login | early⟩ := last lost
  · exact ⟨lost, earlier, call, recorded.trans split, refused, login⟩
  · rw [started] at early
    cases early

/-- The token of the settings is refused where the network is described. The run ends with this
call, and no login was tried, although credentials are stored. -/
theorem refused_token_ends_start :
    let settings := ScriptedHost.settings (some ⟨"token"⟩)
    let client := Coordinator.ofSettings settings
    let ending := run ScriptedHost.surroundings.logged settings []
      ([], ⟨[ScriptedHost.refusal], []⟩)
    client.credentials.isSome = true ∧ losesSession ending.1 = true ∧
      ending.2.1.map (fun call => call.request.url) =
        [client.urlOf ["vpcs", client.vpc.print]] ∧
      ∀ call ∈ ending.2.1, call.request.url ≠ client.urlOf ["login"] := by
  decide +kernel

end Agent

end MeshNode
