import MeshNode.Agent
import MeshNode.Proofs.Runs

/-!
# The calls of an agent

A node's states may keep a record of the calls to the coordinator: every request that is
sent, with what came back, and nothing besides. Every surroundings can be made to keep one.
What an agent does with its files, its reflectors and its tunnel leaves the record alone,
so that the record tells in which order an agent calls, and after which answers.

One call sends at most one request; a token that no header can carry prevents it. The call
fails for an invalid session exactly if the answer on record refuses it.
-/

namespace MeshNode

/-- A request to the coordinator and what came back. -/
structure ApiCall where
  request : ApiRequest
  answer : Except String ApiResponse

/-- The answer says that the session, or what was logged in with, is not valid. -/
def ApiCall.refused (call : ApiCall) : Bool :=
  match call.answer with
  | .ok response => response.status = 401 || response.status = 403
  | .error _ => false

variable {World : Type}

namespace Surroundings

/-- The states keep a record of the calls: sending puts the call behind those before it, and
nothing else touches the record. -/
structure Records (around : Surroundings World) (calls : World → List ApiCall) : Prop where
  sent : ∀ request world, calls (around.transport.send request world).2 =
    calls world ++ [⟨request, (around.transport.send request world).1⟩]
  madeKey : ∀ world, calls (around.freshKey world).2 = calls world
  looked : ∀ path world, calls (around.files.exists? path world).2 = calls world
  read : ∀ path world, calls (around.files.read path world).2 = calls world
  created : ∀ path world, calls (around.files.createDirectories path world).2 = calls world
  truncated : ∀ mode path world, calls (around.files.truncate mode path world).2 = calls world
  appended : ∀ path bytes world, calls (around.files.append path bytes world).2 = calls world
  bound : ∀ port world, calls (around.reflectors.bind port world).2 = calls world
  queried : ∀ port reflector world,
    calls (around.reflectors.query port reflector world).2 = calls world
  tornDown : ∀ world, calls (around.teardown world).2 = calls world
  setUp : ∀ settings world, calls (around.setup settings world).2 = calls world
  tunnelled : ∀ request world, calls (around.tunnel.answer request world).2 = calls world

/-- Do something beside a record. -/
def beside {α : Type} (act : World → α × World) (state : List ApiCall × World) :
    α × (List ApiCall × World) :=
  let (answer, world) := act state.2
  (answer, state.1, world)

/-- The same surroundings with a record of the calls. -/
def logged (around : Surroundings World) : Surroundings (List ApiCall × World) where
  files :=
    { exists? := fun path => beside (around.files.exists? path)
      read := fun path => beside (around.files.read path)
      createDirectories := fun path => beside (around.files.createDirectories path)
      truncate := fun mode path => beside (around.files.truncate mode path)
      append := fun path bytes => beside (around.files.append path bytes) }
  stateDirectory := around.stateDirectory
  freshKey := beside around.freshKey
  transport :=
    { send := fun request state =>
        let (answer, world) := around.transport.send request state.2
        (answer, state.1 ++ [⟨request, answer⟩], world) }
  reflectors :=
    { bind := fun port => beside (around.reflectors.bind port)
      query := fun port reflector => beside (around.reflectors.query port reflector) }
  lookup := around.lookup
  ownAddress := around.ownAddress
  hostname := around.hostname
  teardown := beside around.teardown
  setup settings := beside (around.setup settings)
  tunnel := ⟨fun request => beside (around.tunnel.answer request)⟩
  reach := around.reach

/-- Every surroundings can be made to keep a record. -/
theorem records_logged (around : Surroundings World) : around.logged.Records Prod.fst := by
  constructor <;> intros <;> rfl

end Surroundings

/-! ## What leaves the record alone -/

/-- A driver that moves a view by no request moves it by no tick. -/
theorem Node.tick_view {View : Type} {driver : Driver World} {view : World → View}
    (still : ∀ request world, view (driver.answer request world).2 = view world)
    (fetched : Except ListingError (List PeerRecord)) (node : Node World) :
    view (node.tick driver fetched).2.world = view node.world := by
  have blind : RouteBlind driver view :=
    ⟨fun network => still (.routeExists network), fun network => still (.addRoute network),
      fun network => still (.deleteRoute network)⟩
  have passed : ∀ (changes : List Change) (pass : Applier.Pass World),
      view (changes.foldl (Applier.Pass.change driver) pass).world = view pass.world := by
    intro changes
    induction changes with
    | nil => exact fun pass => rfl
    | cons change rest inductionHypothesis =>
      intro pass
      rw [List.foldl_cons, inductionHypothesis, Applier.change_world, blind.carryOut, still]
  rcases Node.tick_cases driver fetched node with
    ⟨_, _, ticked⟩ | ⟨_, _, ticked⟩ | ⟨_, _, _, ticked⟩ | ⟨listing, _, _, ticked⟩
  · rw [ticked]
  · rw [ticked]
  · rw [ticked]
  · rw [ticked]
    change view (node.passOver driver (Reconciler.prepare node.localNode listing)).world = _
    rw [Node.passOver_eq_foldl, passed]

namespace Surroundings.Records

variable {around : Surroundings World} {calls : World → List ApiCall}
  (records : around.Records calls)

include records

theorem loadKey (path : FilePath) (world : World) :
    calls (KeyFile.load around.files path world).2 = calls world := by
  have read := records.read path world
  unfold KeyFile.load
  split <;> simp_all

theorem saveKey (key : PrivateKey) (path : FilePath) (world : World) :
    calls (KeyFile.save around.files key path world).2 = calls world := by
  have created := records.created path.parent world
  unfold KeyFile.save
  split
  · simp_all
  · rename_i made _
    have truncated := records.truncated KeyFile.mode path made
    split
    · simp_all
    · rename_i emptied _
      have appended := records.appended path (KeyFile.encode key) emptied
      split <;> simp_all

theorem deviceKey (world : World) : calls (Agent.deviceKey around world).2 = calls world := by
  have fresh := records.madeKey world
  unfold Agent.deviceKey KeyFile.getOrCreate
  have looked := records.looked (around.stateDirectory.child KeyFile.name) (around.freshKey world).2
  dsimp only
  split
  · simp_all
  · simp_all [records.loadKey]
  · rename_i found _
    have saved := records.saveKey (around.freshKey world).1
      (around.stateDirectory.child KeyFile.name) found
    split <;> simp_all

theorem collect (port : SourcePort) (wanted : Nat) (reflectors : List Reflector) (world : World) :
    calls (Discovery.collect around.reflectors port wanted reflectors world).2 = calls world := by
  induction reflectors generalizing wanted world with
  | nil => cases wanted <;> rfl
  | cons reflector rest inductionHypothesis =>
    cases wanted with
    | zero => rfl
    | succ wanted =>
      have queried := records.queried port reflector world
      unfold Discovery.collect
      split <;> simp_all

theorem attempts (reflectors : List Reflector) (count : Nat) (world : World) :
    calls (Discovery.attempts around.reflectors reflectors count world).2 = calls world := by
  have attempted : ∀ world,
      calls (Discovery.attempt around.reflectors reflectors world).2 = calls world := by
    intro world
    have bound := records.bound .listen world
    unfold Discovery.attempt
    split <;> simp_all [records.collect]
  induction count generalizing world with
  | zero => rfl
  | succ count inductionHypothesis =>
    have first := attempted world
    unfold Discovery.attempts
    split <;> simp_all

theorem discoverEndpoints (settings : Settings) (world : World) :
    calls (Agent.discoverEndpoints around settings world).2 = calls world := by
  have tornDown := records.tornDown world
  unfold Agent.discoverEndpoints
  split
  · simp_all
  · simp_all [Discovery.discover, records.attempts]

theorem recheck (reflectors : List Reflector) (world : World) :
    calls (Discovery.recheck around.reflectors reflectors world).2 = calls world := by
  have answered : ∀ port world,
      calls (Discovery.firstAnswer around.reflectors port reflectors world).2 = calls world := by
    intro port world
    have collected := records.collect port 1 reflectors world
    unfold Discovery.firstAnswer
    split <;> simp_all
  have listening := records.bound .listen world
  unfold Discovery.recheck
  split
  · rfl
  · split
    · simp_all
    · simp_all
    · rename_i held _
      have elsewhere := records.bound .ephemeral held
      split <;> simp_all

end Surroundings.Records

/-! ## What a call puts on record -/

/-- From one state to another at most one request was sent, and its answer refused it exactly if
the last holds. -/
def Asked (calls : World → List ApiCall) (request : ApiRequest) (before after : World)
    (unauthorized : Prop) : Prop :=
  ∃ made : Option ApiCall, calls after = calls before ++ made.toList ∧
    (∀ call ∈ made, call.request = request) ∧
    ((∃ call ∈ made, call.refused = true) ↔ unauthorized)

theorem Asked.of_call {calls : World → List ApiCall} {request : ApiRequest} {before after : World}
    {unauthorized : Prop} {call : ApiCall} (recorded : calls after = calls before ++ [call])
    (own : call.request = request) (refused : call.refused = true ↔ unauthorized) :
    Asked calls request before after unauthorized :=
  ⟨some call, recorded, by simpa using own, by simpa using refused⟩

namespace Coordinator

/-- An answer fails a call for an invalid session exactly if its status refuses the call, and never
for want of credentials. -/
theorem answered {α : Type} (ofJson? : Json → Option α) (response : ApiResponse) :
    ((check response >>= decode ofJson?) = .error .unauthorized ↔
        response.status = 401 ∨ response.status = 403) ∧
      (check response >>= decode ofJson?) ≠ .error .noCredentials := by
  unfold check
  split
  · rename_i refused
    exact ⟨iff_of_true rfl refused, by simp [bind, Except.bind]⟩
  · rename_i passed
    split
    · unfold decode
      simp only [bind, Except.bind]
      split <;> simp [passed]
    · simp [bind, Except.bind, passed]

/-- No call fails for want of credentials. -/
theorem call_ne_noCredentials {α : Type} (transport : Transport World) (ofJson? : Json → Option α)
    (request : ApiRequest) (world : World) :
    (call transport ofJson? request world).1 ≠ .error .noCredentials := by
  unfold call
  split
  · simp
  · split
    · simp
    · exact (answered ofJson? _).2

/-- A login with stored credentials is one call: its success brings a new token, and its failure
leaves the client as it was. -/
theorem login_cases (transport : Transport World) (client : Coordinator)
    (credentials : Credentials) (stored : client.credentials = some credentials) (world : World) :
    let called := call transport token? (client.loginRequest credentials) world
    (∃ token, called.1 = .ok token ∧
        client.login transport world = (.ok (), { client with token := some token }, called.2)) ∨
      ∃ error, called.1 = .error error ∧
        client.login transport world = (.error error, client, called.2) := by
  unfold login
  rw [stored]
  dsimp only
  rcases call transport token? (client.loginRequest credentials) world with ⟨_ | token, after⟩
  · exact Or.inr ⟨_, rfl, rfl⟩
  · exact Or.inl ⟨token, rfl, rfl⟩

/-- Only an invalid session makes a failed listing one that stops the reconciler. -/
theorem stops_iff {α : Type} (result : Except CoordinatorError α) :
    (∃ reason, result.mapError CoordinatorError.toListingError = .error (.unauthorized reason)) ↔
      result = .error .unauthorized := by
  cases result with
  | ok value => simp [Except.mapError]
  | error error => cases error <;> simp [Except.mapError, CoordinatorError.toListingError]

end Coordinator

namespace Surroundings.Records

variable {around : Surroundings World} {calls : World → List ApiCall}
  (records : around.Records calls)

include records

/-- A request that can be sent is one call, and fails for an invalid session exactly if it is
refused. -/
theorem sentCall {α : Type} (ofJson? : Json → Option α) (request : ApiRequest) (world : World)
    (sendable : (request.bearer.any fun token => !Coordinator.isSendable token) = false) :
    let called := Coordinator.call around.transport ofJson? request world
    ∃ call, calls called.2 = calls world ++ [call] ∧ call.request = request ∧
      (call.refused = true ↔ called.1 = .error .unauthorized) := by
  have sent := records.sent request world
  refine ⟨⟨request, (around.transport.send request world).1⟩, ?_, rfl, ?_⟩
  all_goals
    simp only [Coordinator.call, sendable]
    split
    · contradiction
    · split <;> simp_all [ApiCall.refused, (Coordinator.answered ofJson? _).1]

/-- A call fails for an invalid session exactly if its request was sent and refused. -/
theorem call {α : Type} (ofJson? : Json → Option α) (request : ApiRequest) (world : World) :
    Asked calls request world (Coordinator.call around.transport ofJson? request world).2
      ((Coordinator.call around.transport ofJson? request world).1 = .error .unauthorized) := by
  cases sendable : request.bearer.any fun token => !Coordinator.isSendable token with
  | false =>
    obtain ⟨call, recorded, own, refused⟩ := records.sentCall ofJson? request world sendable
    exact Asked.of_call recorded own refused
  | true =>
    refine ⟨none, ?_, ?_, ?_⟩
    · simp [Coordinator.call, sendable]
    · simp
    · simp [Coordinator.call, sendable]

/-- A login with stored credentials is one call, and fails for an invalid session exactly if this
call is refused: it carries no token that could prevent it. -/
theorem login (client : Coordinator) (credentials : Credentials)
    (stored : client.credentials = some credentials) (world : World) :
    let login := client.login around.transport world
    ∃ call, calls login.2.2 = calls world ++ [call] ∧
      call.request = client.loginRequest credentials ∧
      (call.refused = true ↔ login.1 = .error .unauthorized) := by
  obtain ⟨call, recorded, own, refused⟩ :=
    records.sentCall Coordinator.token? (client.loginRequest credentials) world rfl
  rcases client.login_cases around.transport credentials stored world with
    ⟨token, answer, logged⟩ | ⟨error, answer, logged⟩
  · rw [logged]
    exact ⟨call, recorded, own, by rw [refused, answer]; simp⟩
  · rw [logged]
    exact ⟨call, recorded, own, by rw [refused, answer]; simp⟩

/-- Asking for the listing is one call, and only its refusal stops the reconciler. -/
theorem fetchListing (client : Coordinator) (world : World) :
    Asked calls client.listingRequest world (client.fetchListing around.transport world).2
      (∃ reason,
        (client.fetchListing around.transport world).1 = .error (.unauthorized reason)) := by
  have stops : (∃ reason, (client.fetchListing around.transport world).1 =
      .error (.unauthorized reason)) ↔
        (client.listDevices around.transport world).1 = .error .unauthorized :=
    Coordinator.stops_iff _
  rw [stops]
  exact records.call (Json.listOf? PeerRecord.ofJson?) client.listingRequest world

end Surroundings.Records

end MeshNode
