import MeshNode.Rehearsal
import MeshNode.Rehearsal.Isolation
import MeshNode.Rehearsal.Settings

/-!
# Rehearsing the coordinator's client

What a node reads from the coordinator and what it publishes, and the client's calls on an
isolated host, where no request arrives anywhere.
-/

namespace MeshNode.Rehearsal

/-- Rehearse the description of a network. -/
def network (request : Json) : Option Json := do
  match (Json.parse? (← request.textOf "json")).bind Vpc.ofJson? with
  | none => return .failure "DecodeError"
  | some vpc =>
    return .ok (.object
      [("vpc", vpc.toJson), ("supernet", PeerRecord.networksJson vpc.supernet)])

/-- Read a discovery. A fallback names no reflector. -/
def discovery? (request : Json) : Option Discovery := do
  let own ← request.required Json.socket? "local"
  let reflexive ← request.required Json.socket? "reflexive"
  let fallback ← request.flag "fallback"
  let reflector ← request.defaulting "" Json.text? "reflector"
  let symmetric ← request.flag "symmetric"
  let reflector := if fallback then none else some reflector
  return { own, reflexive, reflector, symmetric, fallback }

/-- Read a registration. -/
def registration? (request : Json) : Option Registration := do
  let vpc ← request.required Json.uuid? "vpc_id"
  let publicKey ← request.required Json.publicKey? "public_key"
  let endpoints ← request.listIn Endpoint.ofJson? "endpoints"
  let advertised ← request.listOrEmpty Json.network? "advertise_cidrs"
  let relay ← request.flag "relay"
  let symmetricNat ← request.flag "symmetric_nat"
  let hostname ← request.textOf "hostname"
  return { vpc, publicKey, endpoints, advertised, relay, symmetricNat, hostname }

/-- Rehearse what a node publishes and takes. -/
def publication (request : Json) : Option Json := do
  match ← actionOf request with
  | "advertised_endpoints" =>
    let endpoints := Registration.advertisedEndpoints (← discovery? request)
    return .ok (.array (endpoints.map Endpoint.toJson))
  | "interface_addresses" =>
    let record ← request.required PeerRecord.ofJson? "record"
    return .ok (PeerRecord.networksJson (Registration.interfaceAddresses record))
  | "registration" => return .ok (← registration? request).toJson
  | _ => none

/-! ## The client -/

/-- A scripted answer of a coordinator, which is only checked here: nobody ever asks for it. -/
def scriptedAnswer? (value : Json) : Option Unit := do
  let _ ← value.optional (Json.natBelow? 1000) "status"
  match value.field? "json", value.field? "text", value.field? "hex" with
  | some _, _, _ => some ()
  | none, some text, _ => text.text?.map fun _ => ()
  | none, none, some hex => (Json.bytes? hex).map fun _ => ()
  | none, none, none => some ()

/-- The script of a coordinator. -/
def coordinatorScript? (value : Json) : Option Unit := do
  for kind in ["login", "vpc", "register", "listing"] do
    let _ ← value.listOrEmpty scriptedAnswer? kind

/-- A mode. -/
def mode? : Json → Option TunnelKind := Json.parsed? TunnelKind.ofName?

/-- Read an agent's settings; its coordinator is on this host. -/
def agentLayer? (basePath : String) (value : Json) : Option Settings.Layer := do
  let vpc ← value.required Json.uuid? "vpc_id"
  let authToken ← value.optional Json.text? "auth_token"
  let user ← value.optional Json.text? "username"
  let password ← value.optional Json.text? "password"
  let relay ← value.optional Json.bool? "relay"
  let relayOnly ← value.optional Json.bool? "relay_only"
  let mode ← value.optional mode? "mode"
  let advertised ← value.optional (Json.listOf? Json.network?) "advertise_cidrs"
  let reconcileSeconds ← value.optional Json.nat? "reconcile_interval_secs"
  let natRecheckSeconds ← value.optional Json.nat? "nat_recheck_interval_secs"
  return {
    coordinator := some s!"http://127.0.0.1:20100{basePath}"
    insecureHttp := some true
    vpc := some vpc
    authToken := authToken.map Secret.mk
    user
    password := password.map Secret.mk
    relay
    relayOnly
    mode
    advertised
    reconcileSeconds
    natRecheckSeconds }

/-- An agent's settings, or the answer that refuses them. -/
def agentSettings? (request : Json) : Option (Except Json Settings) := do
  let basePath ← request.defaulting "" Json.text? "base_path"
  let layer ← request.required (agentLayer? basePath) "config"
  return (layer.finalize (rehearsalEnvironment []).stateDirectory).mapError settingsError

/-- The kind of a failed call. -/
def coordinatorErrorKind : CoordinatorError → String
  | .transport _ => "Http"
  | .malformed _ => "Http"
  | .refused _ _ => "Api"
  | .unauthorized => "Unauthorized"
  | .noCredentials => "NoCredentials"

/-- A failure whose wording is not this library's: whether an answer came that could not be read. -/
def undecoded (kind : String) (decode : Bool) : Json :=
  .object [("error", .string kind), ("decode", .bool decode)]

/-- A failed call. -/
def coordinatorError (error : CoordinatorError) : Json :=
  match error with
  | .transport _ => undecoded "Http" false
  | .malformed _ => undecoded "Http" true
  | _ =>
    .object
      [("error", .string (coordinatorErrorKind error)), ("message", .string error.message),
        ("unauthorized", .bool error.isUnauthorized)]

/-- A failed listing on behalf of the reconciler. -/
def fetchError (error : CoordinatorError) : Json :=
  match error, error.toListingError with
  | .transport _, _ => Json.failure "Transient"
  | .malformed _, _ => Json.failure "Transient"
  | _, .transient _ => Json.failureText "Transient" error.toListingError.message
  | _, .unauthorized _ => Json.failureText "Unauthorized" error.toListingError.message

/-- A call's answer. -/
def callJson {α : Type} (encode : α → Json) (failed : CoordinatorError → Json) :
    Except CoordinatorError α → Json
  | .ok value => .ok (encode value)
  | .error error => failed error

/-- One call of the client. -/
def coordinatorAction (client : Coordinator) (step : Json) : Option (Json × Coordinator) := do
  let transport : Transport Unit := isolatedTransport
  let nothing := fun _ : Unit => Json.null
  match ← actionOf step with
  | "login" =>
    let (result, client, _) := client.login transport ()
    return (callJson nothing coordinatorError result, client)
  | "reconnect" =>
    let (result, client, _) := client.reconnect transport ()
    return (callJson nothing coordinatorError result, client)
  | "vpc" => return (callJson Vpc.toJson coordinatorError (client.fetchVpc transport ()).1, client)
  | "list" =>
    let records := fun records : List PeerRecord => Json.array (records.map PeerRecord.toJson)
    return (callJson records coordinatorError (client.listDevices transport ()).1, client)
  | "register" =>
    let (result, _) := client.register transport (← registration? step) ()
    return (callJson PeerRecord.toJson coordinatorError result, client)
  | "fetch_listing" =>
    let count := fun records : List PeerRecord => Json.ofNat records.length
    return (callJson count fetchError (client.listDevices transport ()).1, client)
  | _ => none

/-- One call, whether there is a session behind it, and the requests that arrived: none. -/
def coordinatorStep (client : Coordinator) (step : Json) : Option (Json × Coordinator) := do
  let (result, client) ← coordinatorAction client step
  return (.object
    [("result", result), ("session", .bool client.hasSession), ("requests", .array [])], client)

/-- Rehearse the coordinator's client. -/
def coordinator (request : Json) : Option Json := do
  request.required coordinatorScript? "server"
  let steps ← stepsOf request
  match ← agentSettings? request with
  | .error refusal => return refusal
  | .ok settings =>
    return .ok (.array (← runSteps coordinatorStep (Coordinator.ofSettings settings) steps))

end MeshNode.Rehearsal
