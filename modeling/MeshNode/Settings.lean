import MeshNode.Network
import MeshNode.Secret
import MeshNode.Tunnel
import MeshNode.Url

/-!
# Settings

What a node is told before it starts. Settings come in layers: a file, the environment and the
command line, each of which may leave any setting open. Laying one layer over another keeps, for
every setting by itself, what the upper layer says and otherwise what the lower one says; so the
order in which neighbouring layers are joined does not matter, and an empty layer changes
nothing.

Only the joined layers are checked. The first rule that is broken, in a fixed order, refuses
them all: the coordinator's address, the network, the credentials, and then single settings.
What is left open has a default.
-/

namespace MeshNode

/-- A user name and a password, with which a session can be renewed. -/
structure Credentials where
  user : String
  password : Secret
  deriving DecidableEq

/-- Checked settings. -/
structure Settings where
  coordinator : Url
  vpc : Uuid
  authToken : Option Secret
  credentials : Option Credentials
  interface : String
  listenPort : UInt16
  mode : TunnelKind
  relay : Bool
  /-- Every other node is reached through the relay. -/
  relayOnly : Bool
  advertised : List Network
  stunServers : List String
  reconcileSeconds : Nat
  probeSeconds : Nat
  probeBatch : Nat
  probeMilliseconds : Nat
  natRecheckSeconds : Nat
  statusListen : SocketAddress
  stateDirectory : String
  deriving DecidableEq

namespace Settings

/-- Why there are no settings. -/
inductive Error where
  | fileUnreadable (path : String) (reason : String)
  | fileMalformed (path : String)
  | invalid (field message : String)
  | missing (field : String)
  deriving DecidableEq, Repr

/-- The wording of an error. -/
def Error.message : Error → String
  | .fileUnreadable path reason => s!"failed to read config file {path}: {reason}"
  | .fileMalformed path => s!"failed to parse config file {path}"
  | .invalid field message => s!"invalid value for {field}: {message}"
  | .missing field => s!"missing required setting: {field}"

/-- One source's settings, all of them optional. -/
structure Layer where
  coordinator : Option String := none
  vpc : Option Uuid := none
  authToken : Option Secret := none
  user : Option String := none
  password : Option Secret := none
  insecureHttp : Option Bool := none
  interface : Option String := none
  listenPort : Option UInt16 := none
  mode : Option TunnelKind := none
  relay : Option Bool := none
  relayOnly : Option Bool := none
  advertised : Option (List Network) := none
  stunServers : Option (List String) := none
  reconcileSeconds : Option Nat := none
  probeSeconds : Option Nat := none
  probeBatch : Option Nat := none
  probeMilliseconds : Option Nat := none
  natRecheckSeconds : Option Nat := none
  statusListen : Option SocketAddress := none
  stateDirectory : Option String := none
  deriving DecidableEq, Inhabited

namespace Layer

/-- Lay a layer over this one: what the upper layer says counts, setting by setting. -/
def merge (lower upper : Layer) : Layer where
  coordinator := upper.coordinator.or lower.coordinator
  vpc := upper.vpc.or lower.vpc
  authToken := upper.authToken.or lower.authToken
  user := upper.user.or lower.user
  password := upper.password.or lower.password
  insecureHttp := upper.insecureHttp.or lower.insecureHttp
  interface := upper.interface.or lower.interface
  listenPort := upper.listenPort.or lower.listenPort
  mode := upper.mode.or lower.mode
  relay := upper.relay.or lower.relay
  relayOnly := upper.relayOnly.or lower.relayOnly
  advertised := upper.advertised.or lower.advertised
  stunServers := upper.stunServers.or lower.stunServers
  reconcileSeconds := upper.reconcileSeconds.or lower.reconcileSeconds
  probeSeconds := upper.probeSeconds.or lower.probeSeconds
  probeBatch := upper.probeBatch.or lower.probeBatch
  probeMilliseconds := upper.probeMilliseconds.or lower.probeMilliseconds
  natRecheckSeconds := upper.natRecheckSeconds.or lower.natRecheckSeconds
  statusListen := upper.statusListen.or lower.statusListen
  stateDirectory := upper.stateDirectory.or lower.stateDirectory

/-! ## Checks -/

/-- A setting that must be given. -/
def given {α : Type} (field : String) : Option α → Except Error α
  | some value => .ok value
  | none => .error (.missing field)

/-- The coordinator's address: encrypted, unless the settings allow plain connections. -/
def coordinatorOf (layer : Layer) : Except Error Url := do
  match Url.parse (← given "coordinator_url" layer.coordinator) with
  | .ok url =>
    if url.secure || layer.insecureHttp.getD false then .ok url
    else .error (.invalid "coordinator_url"
      "must use https:// (set insecure_http = true to allow http://)")
  | .error (.malformed flaw) => .error (.invalid "coordinator_url" flaw.message)
  | .error (.foreignScheme scheme) =>
    .error (.invalid "coordinator_url" s!"unsupported scheme '{scheme}'")

/-- The credentials: a user name and a password, or neither. -/
def credentialsOf (layer : Layer) : Except Error (Option Credentials) :=
  match layer.user, layer.password with
  | some user, some password => .ok (some ⟨user, password⟩)
  | some _, none => .error (.invalid "password" "required when username is set")
  | none, some _ => .error (.invalid "username" "required when password is set")
  | none, none => .ok none

/-- The token, where it is not empty. -/
def tokenOf (layer : Layer) : Option Secret := layer.authToken.filter fun token => !token.isEmpty

/-- A number that must not be zero. -/
def positive (field : String) (value : Nat) : Except Error Nat :=
  if value = 0 then .error (.invalid field "must be greater than zero") else .ok value

/-- Something to log in with is required. -/
def checkLogin (token : Option Secret) (credentials : Option Credentials) : Except Error Unit :=
  if token.isNone && credentials.isNone then .error (.missing "auth_token or username/password")
  else .ok ()

/-- The most bytes that the system allows in the name of an interface. -/
def maxInterfaceName : Nat := 15

/-- The name of the tunnel interface. -/
def interfaceOf (layer : Layer) : Except Error String :=
  let name := layer.interface.getD "wg0"
  if name.isEmpty || maxInterfaceName < name.utf8ByteSize then
    .error (.invalid "interface" "must be 1 to 15 characters")
  else .ok name

/-- A relay reaches everybody by itself. -/
def checkRelay (relay relayOnly : Bool) : Except Error Unit :=
  if relay && relayOnly then .error (.invalid "relay_only" "a relay node cannot be relay-only")
  else .ok ()

/-- Where the status is served by default. -/
def defaultStatusListen : SocketAddress := { address := .loopback, port := 7733 }

/-- Check a layer and fill in the defaults; `stateDirectory` is the default for the state. -/
def finalize (stateDirectory : String) (layer : Layer) : Except Error Settings := do
  let coordinator ← layer.coordinatorOf
  let vpc ← given "vpc_id" layer.vpc
  let credentials ← layer.credentialsOf
  checkLogin layer.tokenOf credentials
  let interface ← layer.interfaceOf
  let probeBatch ← positive "probe_batch_size" (layer.probeBatch.getD 10)
  let relay := layer.relay.getD false
  let relayOnly := layer.relayOnly.getD false
  checkRelay relay relayOnly
  let reconcileSeconds ← positive "reconcile_interval_secs" (layer.reconcileSeconds.getD 5)
  let probeSeconds ← positive "probe_interval_secs" (layer.probeSeconds.getD 30)
  let probeMilliseconds ← positive "probe_timeout_ms" (layer.probeMilliseconds.getD 1200)
  let natRecheckSeconds ← positive "nat_recheck_interval_secs" (layer.natRecheckSeconds.getD 20)
  return {
    coordinator
    vpc
    authToken := layer.tokenOf
    credentials
    interface
    listenPort := layer.listenPort.getD 51820
    mode := layer.mode.getD .kernel
    relay
    relayOnly
    advertised := layer.advertised.getD []
    stunServers := layer.stunServers.getD []
    reconcileSeconds
    probeSeconds
    probeBatch
    probeMilliseconds
    natRecheckSeconds
    statusListen := layer.statusListen.getD defaultStatusListen
    stateDirectory := layer.stateDirectory.getD stateDirectory }

end Layer

end Settings

end MeshNode
