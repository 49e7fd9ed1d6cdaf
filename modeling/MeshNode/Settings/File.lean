import MeshNode.Settings
import MeshNode.Toml.Reader

/-!
# Settings from a file

A settings file is one TOML table with the settings by name. A name that is no setting, or a
value of another type than the setting's, refuses the whole file. The mode may be written as a
table with its name as the only key and nothing behind it.
-/

namespace MeshNode.Settings.File

open Toml (Value Members)

/-- A text. -/
def text? : Value → Option String
  | .string text => some text
  | _ => none

/-- A truth value. -/
def bool? : Value → Option Bool
  | .boolean value => some value
  | _ => none

/-- A number from zero up to below a bound. -/
def numberBelow? (bound : Nat) : Value → Option Nat
  | .integer (.ofNat n) => if n < bound then some n else none
  | _ => none

/-- A port. -/
def port? (value : Value) : Option UInt16 := (numberBelow? 65536 value).map UInt16.ofNat

/-- A count. -/
def count? (value : Value) : Option Nat := numberBelow? (1 <<< 63) value

/-- A list. -/
def listOf? {α : Type} (decode : Value → Option α) : Value → Option (List α)
  | .array elements => elements.mapM decode
  | _ => none

/-- A text that a reader accepts. -/
def parsed? {α : Type} (parse : String → Option α) (value : Value) : Option α :=
  (text? value).bind parse

/-- An identifier in one of its written forms, or an array that begins with its sixteen bytes. -/
def uuid? : Value → Option Uuid
  | .string text => Uuid.parse? text
  | .array elements => do
    let bytes ← (elements.take 16).mapM (numberBelow? 256)
    guard (bytes.length = 16)
    return ⟨BitVec.ofNat 128 (Text.ofDigits 256 bytes)⟩
  | _ => none

/-- Whether a value says nothing. -/
def isVoid : Value → Bool
  | .array [] => true
  | .table _ [] => true
  | _ => false

/-- The mode. -/
def mode? : Value → Option TunnelKind
  | .string name => TunnelKind.ofName? name
  | .table _ [(name, value)] => if isVoid value then TunnelKind.ofName? name else none
  | _ => none

/-- The names of the settings in a file. -/
def names : List String :=
  ["coordinator_url", "vpc_id", "auth_token", "username", "password", "insecure_http", "interface",
    "listen_port", "mode", "relay", "relay_only", "advertise_cidrs", "stun_servers",
    "reconcile_interval_secs", "probe_interval_secs", "probe_batch_size", "probe_timeout_ms",
    "nat_recheck_interval_secs", "status_listen", "state_dir"]

/-- A setting that may be missing; where it is there it has to be of its type. -/
def setting {α : Type} (decode : Value → Option α) (members : Members) (name : String) :
    Option (Option α) :=
  match members.lookup name with
  | none => some none
  | some value => (decode value).map some

/-- The layer of a table. -/
def ofMembers? (members : Members) : Option Layer := do
  guard (members.all fun member => names.contains member.1)
  return {
    coordinator := ← setting text? members "coordinator_url"
    vpc := ← setting uuid? members "vpc_id"
    authToken := (← setting text? members "auth_token").map Secret.mk
    user := ← setting text? members "username"
    password := (← setting text? members "password").map Secret.mk
    insecureHttp := ← setting bool? members "insecure_http"
    interface := ← setting text? members "interface"
    listenPort := ← setting port? members "listen_port"
    mode := ← setting mode? members "mode"
    relay := ← setting bool? members "relay"
    relayOnly := ← setting bool? members "relay_only"
    advertised := ← setting (listOf? (parsed? Network.parse?)) members "advertise_cidrs"
    stunServers := ← setting (listOf? text?) members "stun_servers"
    reconcileSeconds := ← setting count? members "reconcile_interval_secs"
    probeSeconds := ← setting count? members "probe_interval_secs"
    probeBatch := ← setting count? members "probe_batch_size"
    probeMilliseconds := ← setting count? members "probe_timeout_ms"
    natRecheckSeconds := ← setting count? members "nat_recheck_interval_secs"
    statusListen := ← setting (parsed? SocketAddress.parse?) members "status_listen"
    stateDirectory := ← setting text? members "state_dir" }

/-- The layer of a file's text. -/
def parse? (text : String) : Option Layer := (Toml.parse? text).bind ofMembers?

end MeshNode.Settings.File
