import MeshNode.Bytes.Repair
import MeshNode.Json.Reader
import MeshNode.Reconciler
import MeshNode.Registration
import MeshNode.Settings
import MeshNode.Vpc

/-!
# The coordinator

The service that knows the network: it checks who asks, assigns tunnel addresses, and lists the
devices. A client holds the session's token, if it has one, and the credentials to get another.
Every call is one request over a transport, which may fail, and the answer decides by its status
code first: two of them mean that the session is not valid, any other outside the range of
success is an error with the text that came with it, and only a success is decoded.

Nothing but a successful login changes the token.
-/

namespace MeshNode

/-- The verbs of requests. -/
inductive Verb where
  | get
  | post
  deriving DecidableEq, Repr

/-- A request to the coordinator. -/
structure ApiRequest where
  verb : Verb
  url : Url
  /-- The token that proves the session. -/
  bearer : Option Secret
  body : Option Json

/-- An answer of the coordinator. -/
structure ApiResponse where
  status : Nat
  body : Bytes
  deriving DecidableEq, Repr

/-- A way to send requests over states of type `World`: an answer, or why none came. -/
structure Transport (World : Type) where
  send : ApiRequest → World → Except String ApiResponse × World

/-- Why a call failed. -/
inductive CoordinatorError where
  /-- No answer came. -/
  | transport (reason : String)
  /-- The answer is not what the call asked for. -/
  | malformed (reason : String)
  | refused (status : Nat) (text : String)
  /-- The session is not valid. -/
  | unauthorized
  /-- There is nothing to log in with. -/
  | noCredentials
  deriving DecidableEq, Repr

namespace CoordinatorError

/-- The wording of a failed call. -/
def message : CoordinatorError → String
  | .transport reason => s!"HTTP request failed: {reason}"
  | .malformed reason => s!"HTTP request failed: {reason}"
  | .refused status text => s!"API error: {status} - {text}"
  | .unauthorized => "session is not authorized"
  | .noCredentials => "session expired and no reusable credentials are configured"

/-- Whether the session is no longer valid. -/
def isUnauthorized (error : CoordinatorError) : Bool := error == .unauthorized

/-- What a failed listing means to the reconciler: only an invalid session stops it. -/
def toListingError (error : CoordinatorError) : ListingError :=
  match error with
  | .unauthorized => .unauthorized error.message
  | _ => .transient error.message

end CoordinatorError

/-- A client of the coordinator. -/
structure Coordinator where
  base : Url
  vpc : Uuid
  token : Option Secret
  credentials : Option Credentials
  deriving DecidableEq

namespace Coordinator

/-- The client that the settings ask for. A token from the settings starts a session. -/
def ofSettings (settings : Settings) : Coordinator :=
  ⟨settings.coordinator, settings.vpc, settings.authToken, settings.credentials⟩

/-- Whether there is a session, valid or not. -/
def hasSession (client : Coordinator) : Bool := client.token.isSome

/-- The address of a call: its path is always counted from the root of the host. -/
def urlOf (client : Coordinator) (path : List String) : Url := client.base.withPath ("api" :: path)

/-! ## Requests -/

/-- The request for a login. -/
def loginRequest (client : Coordinator) (credentials : Credentials) : ApiRequest where
  verb := .post
  url := client.urlOf ["login"]
  bearer := none
  body := some (.object
    [("username", .string credentials.user), ("password", .string credentials.password.expose)])

/-- The request for the description of the network. -/
def vpcRequest (client : Coordinator) : ApiRequest where
  verb := .get
  url := client.urlOf ["vpcs", client.vpc.print]
  bearer := client.token
  body := none

/-- The request for the listing of the devices. -/
def listingRequest (client : Coordinator) : ApiRequest where
  verb := .get
  url := client.urlOf ["vpcs", client.vpc.print, "devices"]
  bearer := client.token
  body := none

/-- The request that publishes a registration. -/
def registerRequest (client : Coordinator) (registration : Registration) : ApiRequest where
  verb := .post
  url := client.urlOf ["devices"]
  bearer := client.token
  body := some registration.toJson

/-! ## Answers -/

/-- The answer of a success, or why it is none. -/
def check (response : ApiResponse) : Except CoordinatorError Bytes :=
  if response.status = 401 ∨ response.status = 403 then .error .unauthorized
  else if 200 ≤ response.status ∧ response.status < 300 then .ok response.body
  else .error (.refused response.status response.body.repaired)

/-- The token of a login's answer. -/
def token? (value : Json) : Option Secret := do
  match ← value.fields? ["access_token"] with
  | [some token] => return ⟨← token.text?⟩
  | _ => none

/-- Decode the body of an answer. -/
def decode {α : Type} (ofJson? : Json → Option α) (body : Bytes) : Except CoordinatorError α :=
  match (Json.ofBytes? body).bind ofJson? with
  | some value => .ok value
  | none => .error (.malformed "error decoding response body")

/-- Whether a token may stand in the header of a request. -/
def isSendable (token : Secret) : Bool :=
  token.expose.toList.all fun c => c = '\t' || (0x20 ≤ c.toNat && c.toNat ≠ 0x7F)

/-! ## Calls -/

variable {World : Type} (transport : Transport World)

/-- Send a request and decode what comes back. A token that no header can carry fails the request
before it is sent. -/
def call {α : Type} (ofJson? : Json → Option α) (request : ApiRequest) (world : World) :
    Except CoordinatorError α × World :=
  if request.bearer.any fun token => !isSendable token then
    (.error (.transport "builder error"), world)
  else
    match transport.send request world with
    | (.error reason, world) => (.error (.transport reason), world)
    | (.ok response, world) => (check response >>= decode ofJson?, world)

/-- Exchange the credentials for a token. -/
def login (client : Coordinator) (world : World) :
    Except CoordinatorError Unit × Coordinator × World :=
  match client.credentials with
  | none => (.error .noCredentials, client, world)
  | some credentials =>
    match call transport token? (client.loginRequest credentials) world with
    | (.ok token, world) => (.ok (), { client with token := some token }, world)
    | (.error error, world) => (.error error, client, world)

/-- Restore a session. -/
def reconnect (client : Coordinator) (world : World) :
    Except CoordinatorError Unit × Coordinator × World :=
  login transport client world

/-- Ask for the description of the network. -/
def fetchVpc (client : Coordinator) (world : World) : Except CoordinatorError Vpc × World :=
  call transport Vpc.ofJson? client.vpcRequest world

/-- Ask for the devices. -/
def listDevices (client : Coordinator) (world : World) :
    Except CoordinatorError (List PeerRecord) × World :=
  call transport (Json.listOf? PeerRecord.ofJson?) client.listingRequest world

/-- Publish a registration and take the record that comes back. -/
def register (client : Coordinator) (registration : Registration) (world : World) :
    Except CoordinatorError PeerRecord × World :=
  call transport PeerRecord.ofJson? (client.registerRequest registration) world

/-- Ask for the devices on behalf of the reconciler. -/
def fetchListing (client : Coordinator) (world : World) :
    Except ListingError (List PeerRecord) × World :=
  let (result, world) := client.listDevices transport world
  (result.mapError CoordinatorError.toListingError, world)

end Coordinator

end MeshNode
