import MeshNode.Agent

/-!
# The ways of a start

A start goes through its steps until one of them fails. What each step does is kept apart
from the order of the steps: these lemmas say once where a start can end and in which
state.

A scripted host is the smallest surroundings to start in. Its files are empty, its tunnel
refuses everything, and the coordinator and the one reflector answer as a script says.
-/

namespace MeshNode

namespace Agent

variable {World : Type} (around : Surroundings World) (settings : Settings)

/-- Only an address that was not assigned keeps the interface from being described. -/
theorem interfaceOf_error (record : PeerRecord) (error : AgentError)
    (failed : interfaceOf settings record = .error error) : ∃ text, error = .registration text := by
  unfold interfaceOf at failed
  simp only at failed
  split at failed
  · exact ⟨_, (Except.error.inj failed).symm⟩
  · cases failed

/-- Joining ends with the registration, without an assigned address, with the interface, or with
an agent at work. -/
theorem join_cases (key : PublicKey) (client : Coordinator) (vpc : Vpc) (discovery : Discovery)
    (world : World) :
    let registration := firstRegistration around settings key discovery
    let registered := client.register around.transport registration world
    let joined := join around settings key client vpc discovery world
    (∃ error, registered.1 = .error error ∧
        joined = (.error (.coordinator error), registered.2)) ∨
      (∃ text, joined = (.error (.registration text), registered.2)) ∨
      (∃ interface error,
        joined = (.error (.tunnel error), (around.setup interface registered.2).2)) ∨
      ∃ record interface, registered.1 = .ok record ∧
        let after := (around.setup interface registered.2).2
        let localNode := firstNode settings key vpc.supernet discovery record
        joined =
          (.ok { settings, client, discovery, registration, node := { localNode, world := after } },
            after) := by
  intro registration registered joined
  simp only [joined, registered, join]
  rcases client.register around.transport registration world with ⟨_ | record, after⟩
  · exact Or.inl ⟨_, rfl, rfl⟩
  · refine Or.inr ?_
    dsimp only
    cases assigned : interfaceOf settings record with
    | error error =>
      obtain ⟨text, rfl⟩ := interfaceOf_error settings record error assigned
      exact Or.inl ⟨text, rfl⟩
    | ok interface =>
      dsimp only
      rcases ended : around.setup interface after with ⟨_ | _, last⟩
      · exact Or.inr (Or.inl ⟨interface, _, by rw [ended]⟩)
      · exact Or.inr (Or.inr ⟨record, interface, rfl, by rw [ended]⟩)

/-- An agent that joined is made of what it was given and of the record that it registered for. -/
theorem join_ok (key : PublicKey) (client : Coordinator) (vpc : Vpc) (discovery : Discovery)
    (world : World) (agent : Agent World)
    (joined : (join around settings key client vpc discovery world).1 = .ok agent) :
    let after := (join around settings key client vpc discovery world).2
    let registration := firstRegistration around settings key discovery
    ∃ record,
      let localNode := firstNode settings key vpc.supernet discovery record
      agent =
        { settings, client, discovery, registration, node := { localNode, world := after } } := by
  intro after registration
  rcases join_cases around settings key client vpc discovery world with
    ⟨_, _, ended⟩ | ⟨_, ended⟩ | ⟨_, _, ended⟩ | ⟨record, _, _, ended⟩
  all_goals rw [ended] at joined
  · cases joined
  · cases joined
  · cases joined
  · refine ⟨record, ?_⟩
    simp only [after, ended]
    exact (Except.ok.inj joined).symm

/-- A start ends with the key, the session, the description of the network or the discovery, or it
goes on to join. -/
theorem start_cases (world : World) :
    let key := deviceKey around world
    let opened := openSession around (Coordinator.ofSettings settings) key.2
    let described := opened.2.1.fetchVpc around.transport opened.2.2
    let discovered := discoverEndpoints around settings described.2
    let started := start around settings world
    (∃ error, key.1 = .error error ∧ started = (.error error, key.2)) ∨
      (∃ error, opened.1 = .error error ∧ started = (.error error, opened.2.2)) ∨
      (∃ error, described.1 = .error error ∧
        started = (.error (.coordinator error), described.2)) ∨
      (∃ error, discovered.1 = .error error ∧ started = (.error error, discovered.2)) ∨
      ∃ device vpc discovery, discovered.1 = .ok discovery ∧
        started = join around settings device opened.2.1 vpc discovery discovered.2 := by
  simp only [start]
  rcases deviceKey around world with ⟨_ | device, afterKey⟩
  · exact Or.inl ⟨_, rfl, rfl⟩
  refine Or.inr ?_
  dsimp only
  rcases openSession around (Coordinator.ofSettings settings) afterKey with
    ⟨_ | _, client, afterSession⟩
  · exact Or.inl ⟨_, rfl, rfl⟩
  refine Or.inr ?_
  dsimp only
  rcases client.fetchVpc around.transport afterSession with ⟨_ | vpc, afterVpc⟩
  · exact Or.inl ⟨_, rfl, rfl⟩
  refine Or.inr ?_
  dsimp only
  rcases discoverEndpoints around settings afterVpc with ⟨_ | discovery, afterDiscovery⟩
  · exact Or.inl ⟨_, rfl, rfl⟩
  · exact Or.inr ⟨device.publicKey, vpc, discovery, rfl, rfl⟩

end Agent

/-- A host whose coordinator and reflector answer as told. -/
structure ScriptedHost where
  /-- The next answers of the coordinator; behind them none comes. -/
  answers : List ApiResponse := []
  /-- The next mappings that the reflector reports, or fails to; behind them none comes. -/
  mappings : List (Option SocketAddress) := []

namespace ScriptedHost

/-- An answer that describes a network. -/
def network : ApiResponse where
  status := 200
  body := Bytes.ofText
    ("\x7b\"id\":\"00000000-0000-4000-8000-000000000001\"," ++
      "\"organization_id\":\"00000000-0000-4000-8000-000000000002\"\x7d")

/-- An answer with the record of a device that was registered. -/
def registered : ApiResponse where
  status := 200
  body := Bytes.ofText
    ("\x7b\"id\":\"00000000-0000-4000-8000-000000000003\"," ++
      "\"public_key\":\"AQEBAQEBAQEBAQEBAQEBAQEBAQEBAQEBAQEBAQEBAQE=\"," ++
      "\"tunnel_ipv4\":\"100.64.0.1\"," ++
      "\"organization_id\":\"00000000-0000-4000-8000-000000000002\"\x7d")

/-- An answer that lets nobody in. -/
def refusal : ApiResponse := ⟨401, []⟩

/-- What surrounds an agent on a scripted host. -/
def surroundings : Surroundings ScriptedHost where
  files :=
    { exists? := fun _ host => (.ok false, host)
      read := fun _ host => (.ok [], host)
      createDirectories := fun _ host => (.ok (), host)
      truncate := fun _ _ host => (.ok (), host)
      append := fun _ _ host => (.ok (), host) }
  stateDirectory := {}
  freshKey host := (⟨⟨List.replicate 32 9, by simp⟩⟩, host)
  transport :=
    { send := fun _ host =>
        match host.answers with
        | [] => (.error "no answer", host)
        | answer :: rest => (.ok answer, { host with answers := rest }) }
  reflectors :=
    { bind := fun _ host => (.ok (), host)
      query := fun _ _ host =>
        match host.mappings with
        | some mapped :: rest => (.ok mapped, { host with mappings := rest })
        | none :: rest => (.error .timeout, { host with mappings := rest })
        | [] => (.error .timeout, host) }
  lookup _ := [⟨.v4 0x09090909, 3478, 0⟩]
  ownAddress := .v4 0x0A000001
  hostname := "host"
  teardown host := (.ok (), host)
  setup _ host := (.ok (), host)
  tunnel := ⟨fun _ host => (.error .notRunning, host)⟩
  reach _ := ⟨0, .error .timeout⟩

/-- The settings of a device that has credentials stored, with a token or without one. -/
def settings (token : Option Secret) : Settings where
  coordinator := { secure := true, host := .domain "coordinator" }
  vpc := ⟨1⟩
  authToken := token
  credentials := some ⟨"user", ⟨"password"⟩⟩
  interface := "wg0"
  listenPort := 51820
  mode := .kernel
  relay := false
  relayOnly := false
  advertised := []
  stunServers := ["reflector"]
  reconcileSeconds := 5
  probeSeconds := 30
  probeBatch := 10
  probeMilliseconds := 1200
  natRecheckSeconds := 20
  statusListen := ⟨.v4 0x7F000001, 7733, 0⟩
  stateDirectory := ""

end ScriptedHost

end MeshNode
