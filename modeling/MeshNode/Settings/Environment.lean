import MeshNode.Settings

/-!
# Settings from the environment

Every setting has a variable of its own; a variable that is empty counts as unset. Truth values
cannot be wrong: a variable is true where it says `true` in any case or `1`, and false
otherwise. Numbers, identifiers, addresses, prefixes and the mode can; of several wrong
variables the first in a fixed order is reported.
-/

namespace MeshNode.Settings

/-- The values of variables, as far as they are set. -/
abbrev Environment := String → Option String

namespace Environment

/-- The value of a variable that is set and not empty. -/
def value? (environment : Environment) (name : String) : Option String :=
  (environment name).filter fun value => !value.isEmpty

/-- A variable whose text has to be read. The error quotes the text. -/
def reading {α : Type} (read : String → Except String α) (environment : Environment)
    (name : String) : Except Error (Option α) :=
  match environment.value? name with
  | none => .ok none
  | some text =>
    match read text with
    | .ok value => .ok (some value)
    | .error reason => .error (.invalid name s!"'{text}': {reason}")

/-- A number below a bound. -/
def number (bound : Nat) (text : String) : Except String Nat :=
  (Text.unsigned bound text).mapError Text.NumeralFlaw.message

/-- A port. -/
def port (text : String) : Except String UInt16 := (number 65536 text).map UInt16.ofNat

/-- A count of at most 64 bits. -/
def count (text : String) : Except String Nat := number (1 <<< 64) text

/-- A result that is wrong for one reason only. -/
def orElse {α : Type} (reason : String) (result : Option α) : Except String α :=
  match result with
  | some value => .ok value
  | none => .error reason

/-- An identifier. -/
def identifier (text : String) : Except String Uuid :=
  orElse "invalid identifier" (Uuid.parse? text)

/-- A prefix. -/
def network (text : String) : Except String Network :=
  orElse "invalid IP address syntax" (Network.parse? text)

/-- A socket address. -/
def socket (text : String) : Except String SocketAddress :=
  orElse "invalid socket address syntax" (SocketAddress.parse? text)

/-- The mode with a name in any case. -/
def modeNamed (text : String) : Except String TunnelKind :=
  let lower := Text.asciiLower text
  orElse s!"unknown mode '{lower}', expected kernel or userspace" (TunnelKind.ofName? lower)

/-- The mode, whose error says what was expected and does not quote the text again. -/
def mode (environment : Environment) (name : String) : Except Error (Option TunnelKind) :=
  match environment.value? name with
  | none => .ok none
  | some text => ((modeNamed text).map some).mapError (.invalid name)

/-- A truth value. -/
def flag? (environment : Environment) (name : String) : Option Bool :=
  (environment.value? name).map fun text => Text.sameIgnoringCase text "true" || text == "1"

/-- The items between commas, without blanks around them and without empty ones. -/
def items? (environment : Environment) (name : String) : Option (List String) :=
  (environment.value? name).map fun text =>
    ((Text.splitAt ',' text.toList).map fun item => String.ofList (Text.trim item)).filter
      fun item => !item.isEmpty

/-- Prefixes between commas. The error quotes the item that is none. -/
def networks (environment : Environment) (name : String) : Except Error (Option (List Network)) :=
  match environment.items? name with
  | none => .ok none
  | some items => do
    let networks ← items.mapM fun item =>
      (network item).mapError fun reason => Error.invalid name s!"'{item}': {reason}"
    return some networks

/-- The layer of the environment. -/
def layer (environment : Environment) : Except Error Layer := do
  let vpc ← environment.reading identifier "WEFT_VPC_ID"
  let listenPort ← environment.reading port "WEFT_LISTEN_PORT"
  let mode ← environment.mode "WEFT_MODE"
  let advertised ← environment.networks "WEFT_ADVERTISE_CIDRS"
  let reconcileSeconds ← environment.reading count "WEFT_RECONCILE_INTERVAL_SECS"
  let probeSeconds ← environment.reading count "WEFT_PROBE_INTERVAL_SECS"
  let probeBatch ← environment.reading count "WEFT_PROBE_BATCH_SIZE"
  let probeMilliseconds ← environment.reading count "WEFT_PROBE_TIMEOUT_MS"
  let natRecheckSeconds ← environment.reading count "WEFT_NAT_RECHECK_INTERVAL_SECS"
  let statusListen ← environment.reading socket "WEFT_STATUS_LISTEN"
  return {
    coordinator := environment.value? "WEFT_COORDINATOR_URL"
    vpc
    authToken := (environment.value? "WEFT_AUTH_TOKEN").map Secret.mk
    user := environment.value? "WEFT_USERNAME"
    password := (environment.value? "WEFT_PASSWORD").map Secret.mk
    insecureHttp := environment.flag? "WEFT_INSECURE_HTTP"
    interface := environment.value? "WEFT_INTERFACE"
    listenPort
    mode
    relay := environment.flag? "WEFT_RELAY"
    relayOnly := environment.flag? "WEFT_RELAY_ONLY"
    advertised
    stunServers := environment.items? "WEFT_STUN_SERVERS"
    reconcileSeconds
    probeSeconds
    probeBatch
    probeMilliseconds
    natRecheckSeconds
    statusListen
    stateDirectory := environment.value? "WEFT_STATE_DIR" }

/-- The variable that a log filter is read from. -/
def logFilterName : String := "RUST_LOG"

/-- The variables that anything is read from. -/
def names : List String :=
  ["WEFT_COORDINATOR_URL", "WEFT_VPC_ID", "WEFT_AUTH_TOKEN", "WEFT_USERNAME", "WEFT_PASSWORD",
    "WEFT_INSECURE_HTTP", "WEFT_INTERFACE", "WEFT_LISTEN_PORT", "WEFT_MODE", "WEFT_RELAY",
    "WEFT_RELAY_ONLY", "WEFT_ADVERTISE_CIDRS", "WEFT_STUN_SERVERS",
    "WEFT_RECONCILE_INTERVAL_SECS", "WEFT_PROBE_INTERVAL_SECS", "WEFT_PROBE_BATCH_SIZE",
    "WEFT_PROBE_TIMEOUT_MS", "WEFT_NAT_RECHECK_INTERVAL_SECS", "WEFT_STATUS_LISTEN",
    "WEFT_STATE_DIR", "WEFT_CONFIG", "HOME", "XDG_CONFIG_HOME", "XDG_DATA_HOME", logFilterName]

/-! ## Standard directories -/

/-- A name below a directory. -/
def below (directory name : String) : String :=
  if directory.endsWith "/" then directory ++ name else s!"{directory}/{name}"

/-- A standard directory: the one that a variable names with its full path, or the usual one in
the home directory. -/
def standardDirectory? (environment : Environment) (variableName usual : String) : Option String :=
  match (environment variableName).filter fun path => path.startsWith "/" with
  | some path => some path
  | none => (environment.value? "HOME").map fun home => below home usual

/-- Where the state is kept unless a setting says otherwise. -/
def stateDirectory (environment : Environment) : String :=
  match environment.standardDirectory? "XDG_DATA_HOME" ".local/share" with
  | some directory => below directory "weft"
  | none => "/var/lib/weft"

/-- Where the settings file is looked for unless the command line says otherwise. -/
def settingsFile? (environment : Environment) : Option String :=
  (environment.standardDirectory? "XDG_CONFIG_HOME" ".config").map fun directory =>
    below (below directory "weft") "weftd.toml"

end Environment

end MeshNode.Settings
