import MeshNode.Coordinator
import MeshNode.KeyFile
import MeshNode.Probe
import MeshNode.Prober
import MeshNode.Tunnel.Kernel

/-!
# The agent

A node from its start to its end. The start is a fixed sequence: the device's key, a session
where the settings bring none, the network, the removal of an interface that an earlier run left
behind, the discovery of endpoints, the registration, and the interface. The first step that
fails ends the agent.

From then on the agent reacts to its timers. A tick of the reconciler fetches the listing. A tick
that finds the session invalid is followed by attempts to restore it, and by nothing else of the
reconciler, until one succeeds; an attempt that is itself refused, or that has nothing to log in
with, ends the agent, and any other failed attempt is repeated. Where the address of the node has
moved, it registers again. That a registration fails then is only reported.
-/

namespace MeshNode

/-- Why an agent ended. -/
inductive AgentError where
  | settings (error : Settings.Error)
  | coordinator (error : CoordinatorError)
  | keyFile (error : KeyFileError)
  | engine (error : EngineError)
  | tunnel (error : TunnelError)
  | io (text : String)
  | registration (text : String)
  | reauthentication (text : String)
  deriving DecidableEq, Repr

/-- The wording of an agent's end. -/
def AgentError.message : AgentError → String
  | .settings error => s!"configuration error: {error.message}"
  | .coordinator error => s!"coordinator error: {error.message}"
  | .keyFile error => s!"device key error: {error.message}"
  | .engine error => s!"engine error: {error.message}"
  | .tunnel error => s!"tunnel backend error: {error.message}"
  | .io text => s!"I/O error: {text}"
  | .registration text => s!"registration incomplete: {text}"
  | .reauthentication text => s!"could not re-establish coordinator session: {text}"

/-- Everything around an agent, over states of type `World`. -/
structure Surroundings (World : Type) where
  files : FileSystem World
  stateDirectory : FilePath
  /-- Make a key for a device that has none. -/
  freshKey : World → PrivateKey × World
  transport : Transport World
  reflectors : ReflectorClient World
  lookup : String → List SocketAddress
  /-- The address of the host on its own network. -/
  ownAddress : Address
  hostname : String
  /-- Remove an interface that an earlier run left behind. -/
  teardown : World → Except TunnelError Unit × World
  setup : InterfaceSettings → World → Except TunnelError Unit × World
  tunnel : Driver World
  reach : Address → ProbeOutcome

/-- An agent at work. -/
structure Agent (World : Type) where
  settings : Settings
  client : Coordinator
  discovery : Discovery
  registration : Registration
  node : Node World

namespace Agent

variable {World : Type} (around : Surroundings World)

/-! ## The start -/

/-- The key of the device. -/
def deviceKey (world : World) : Except AgentError PrivateKey × World :=
  let (fresh, world) := around.freshKey world
  let (result, world) := KeyFile.getOrCreate around.files fresh around.stateDirectory world
  (result.mapError .keyFile, world)

/-- A session: the one that the settings bring, or a new one. -/
def openSession (client : Coordinator) (world : World) :
    Except AgentError Unit × Coordinator × World :=
  if client.hasSession then (.ok (), client, world)
  else
    let (result, client, world) := client.login around.transport world
    (result.mapError .coordinator, client, world)

/-- The endpoints of the node, after an interface that would hold the listen port is gone. -/
def discoverEndpoints (settings : Settings) (world : World) : Except AgentError Discovery × World :=
  match around.teardown world with
  | (.error error, world) => (.error (.tunnel error), world)
  | (.ok (), world) =>
    let names := Discovery.namesOrDefault settings.stunServers
    let own : SocketAddress := { address := around.ownAddress, port := settings.listenPort }
    let (discovery, world) := Discovery.discover around.reflectors own Discovery.defaultAttempts
      (Discovery.resolve around.lookup names) world
    (.ok discovery, world)

/-- Whether the node counts as one that cannot be reached at its learned address. -/
def isSymmetric (settings : Settings) (discovery : Discovery) : Bool :=
  discovery.symmetric || settings.relayOnly

/-- What the node publishes at its start. -/
def firstRegistration (settings : Settings) (key : PublicKey) (discovery : Discovery) :
    Registration where
  vpc := settings.vpc
  publicKey := key
  endpoints := Registration.advertisedEndpoints discovery
  advertised := settings.advertised
  relay := settings.relay
  symmetricNat := isSymmetric settings discovery
  hostname := around.hostname

/-- What the node knows about itself at its start. -/
def firstNode (settings : Settings) (key : PublicKey) (supernet : List Network)
    (discovery : Discovery) (record : PeerRecord) : LocalNode where
  id := some record.id
  publicKey := key
  reflexive := discovery.reflexive
  relay := settings.relay
  symmetricNat := isSymmetric settings discovery
  relayOnly := settings.relayOnly
  relaySupernet := supernet

/-- How the interface is brought up for an assigned record. -/
def interfaceOf (settings : Settings) (record : PeerRecord) : Except AgentError InterfaceSettings :=
  let addresses := Registration.interfaceAddresses record
  if addresses.isEmpty then .error (.registration "coordinator assigned no tunnel address")
  else .ok { listenPort := settings.listenPort, addresses, relay := settings.relay }

/-- Register and bring the interface up. -/
def join (settings : Settings) (key : PublicKey) (client : Coordinator) (vpc : Vpc)
    (discovery : Discovery) (world : World) : Except AgentError (Agent World) × World :=
  let registration := firstRegistration around settings key discovery
  match client.register around.transport registration world with
  | (.error error, world) => (.error (.coordinator error), world)
  | (.ok record, world) =>
    match interfaceOf settings record with
    | .error error => (.error error, world)
    | .ok interface =>
      match around.setup interface world with
      | (.error error, world) => (.error (.tunnel error), world)
      | (.ok (), world) =>
        let localNode := firstNode settings key vpc.supernet discovery record
        (.ok { settings, client, discovery, registration, node := { localNode, world } }, world)

/-- The whole start. -/
def start (settings : Settings) (world : World) : Except AgentError (Agent World) × World :=
  match deviceKey around world with
  | (.error error, world) => (.error error, world)
  | (.ok key, world) =>
    match openSession around (Coordinator.ofSettings settings) world with
    | (.error error, _, world) => (.error error, world)
    | (.ok (), client, world) =>
      match client.fetchVpc around.transport world with
      | (.error error, world) => (.error (.coordinator error), world)
      | (.ok vpc, world) =>
        match discoverEndpoints around settings world with
        | (.error error, world) => (.error error, world)
        | (.ok discovery, world) => join around settings key.publicKey client vpc discovery world

/-! ## At work -/

/-- Whether the agent waits for its session. -/
def awaitsSession (agent : Agent World) : Bool := agent.node.reconciler.phase == .reauthenticating

/-- Change the state of the surroundings. -/
def inWorld (world : World) (agent : Agent World) : Agent World :=
  { agent with node := { agent.node with world } }

/-- Take what an attempt to restore the session came to. -/
def afterAttempt (result : Except CoordinatorError Unit) (agent : Agent World) :
    Except AgentError (Agent World) :=
  match result with
  | .ok () =>
    .ok { agent with node := { agent.node with reconciler := agent.node.reconciler.resume } }
  | .error .unauthorized => .error (.reauthentication CoordinatorError.unauthorized.message)
  | .error .noCredentials => .error (.reauthentication CoordinatorError.noCredentials.message)
  | .error _ => .ok agent

/-- One attempt to restore the session. -/
def restore (agent : Agent World) : Except AgentError (Agent World) × World :=
  let (result, client, world) := agent.client.reconnect around.transport agent.node.world
  (afterAttempt result { inWorld world agent with client }, world)

/-- One tick of the reconciler. Where it finds the session invalid, its phase says so. -/
def reconcile (agent : Agent World) : Agent World :=
  let (listing, world) := agent.client.fetchListing around.transport agent.node.world
  let (_, node) := (inWorld world agent).node.tick around.tunnel listing
  { agent with node }

/-- What the timer of the reconciler does: a tick, or while the session is invalid an attempt to
restore it. -/
def onReconcile (agent : Agent World) : Except AgentError (Agent World) × World :=
  if agent.awaitsSession then restore around agent
  else
    let agent := reconcile around agent
    (.ok agent, agent.node.world)

/-- Whether the node watches its address: one that counts as symmetric has none worth watching. -/
def watchesAddress (agent : Agent World) : Bool := !agent.registration.symmetricNat

/-- Publish a moved address and let the reconciler know it. -/
def move (recheck : Recheck) (agent : Agent World) : Agent World :=
  let discovery := agent.discovery.adopt recheck
  let registration :=
    { agent.registration with endpoints := Registration.advertisedEndpoints discovery }
  let (_, world) := agent.client.register around.transport registration agent.node.world
  let localNode := agent.node.localNode.update fun node =>
    { node with reflexive := discovery.reflexive }
  { agent with discovery, registration, node := { agent.node with localNode, world } }

/-- What the timer of the address watch does with a recheck. A failed one says nothing. -/
def onRecheck (result : Except Stun.Failure Recheck) (agent : Agent World) : Agent World :=
  match result with
  | .error _ => agent
  | .ok recheck => if agent.discovery.movedBy recheck then move around recheck agent else agent

/-- Recheck the address and react to what comes back. -/
def recheckAddress (agent : Agent World) : Agent World :=
  let reflectors :=
    Discovery.resolve around.lookup (Discovery.namesOrDefault agent.settings.stunServers)
  let (result, world) := Discovery.recheck around.reflectors reflectors agent.node.world
  onRecheck around result (inWorld world agent)

/-- What the timer of the prober does. -/
def onProbe (agent : Agent World) : Agent World :=
  let (_, cache) := Prober.probeCycle (around.reach ·.address) agent.settings.probeBatch 0
    agent.node.localNode.relay agent.node.cache
  { agent with node := { agent.node with cache } }

/-- The timers of an agent. -/
inductive Timer where
  | reconcile
  | recheck
  | probe
  deriving DecidableEq, Repr

/-- What an agent does when one of its timers fires. -/
def onTimer (timer : Timer) (agent : Agent World) : Except AgentError (Agent World) × World :=
  match timer with
  | .reconcile => onReconcile around agent
  | .recheck =>
    let agent := if agent.watchesAddress then recheckAddress around agent else agent
    (.ok agent, agent.node.world)
  | .probe =>
    let agent := onProbe around agent
    (.ok agent, agent.node.world)

/-- An agent while its timers fire one after another, up to the failure that ends it. -/
def work : List Timer → Agent World → Except AgentError (Agent World) × World
  | [], agent => (.ok agent, agent.node.world)
  | timer :: rest, agent =>
    match onTimer around timer agent with
    | (.error error, world) => (.error error, world)
    | (.ok agent, _) => work rest agent

/-- A run from the start on: its timers fire one after another until it fails or is stopped. -/
def run (settings : Settings) (timers : List Timer) (world : World) :
    Except AgentError (Agent World) × World :=
  match start around settings world with
  | (.error error, world) => (.error error, world)
  | (.ok agent, _) => work around timers agent

end Agent

end MeshNode
