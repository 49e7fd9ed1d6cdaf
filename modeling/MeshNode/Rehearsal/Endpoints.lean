import MeshNode.Address.Parts
import MeshNode.Rehearsal
import MeshNode.Rehearsal.Isolation

/-!
# Rehearsing the discovery of endpoints

Discovery, recheck and the resolution of reflectors on an isolated host. A reflector is given
by its name or by the script it would follow; a scripted one stands for a socket of this host.
The listen port is shown by a word, because any free port will do.
-/

namespace MeshNode.Rehearsal

/-- The listen port of a rehearsal. -/
def listenPort : UInt16 := 51820

/-- A reflector of a request. -/
inductive ReflectorSpec where
  | named (name : String)
  | scripted
  deriving DecidableEq

/-- Read a reflector. -/
def reflectorSpec? : Json → Option ReflectorSpec
  | .string name => some (.named name)
  | .array entries => (entries.mapM Json.text?).map fun _ => .scripted
  | _ => none

/-- The names of reflectors: a scripted one is named by its address. -/
def reflectorNames (specs : List ReflectorSpec) : List String :=
  specs.zipIdx.map fun (spec, place) =>
    match spec with
    | .named name => name
    | .scripted => s!"127.0.0.1:{20000 + place}"

/-- The port that names and numbers write: a decimal number below 65536. -/
def port? (text : String) : Option UInt16 :=
  ((Text.unsigned 65536 text).toOption).map UInt16.ofNat

/-- The address that a host and a port behind the last colon name; the host may be an IPv4 address
in parts. -/
def hostAndPort? (name : String) : Option SocketAddress := do
  let pieces := (Text.splitAt ':' name.toList).map String.ofList
  let port ← port? (← pieces.getLast?)
  let bits ← Address.parseParts? (Text.joined ":" pieces.dropLast).toList
  return { address := .v4 bits, port }

/-- Look a name up without a name service: only literal addresses are found. -/
def literalLookup (name : String) : List SocketAddress :=
  ((SocketAddress.parse? name).or (hostAndPort? name)).toList

/-- The listen port or a number. -/
def portJson (port : UInt16) : Json :=
  if port = listenPort then .string "LISTEN" else Json.ofNat port.toNat

/-- A socket address by its parts. -/
def endpointJson (ip : Address → String) (socket : SocketAddress) : Json :=
  .object [("ip", .string (ip socket.address)), ("port", portJson socket.port)]

/-- How the host's own address is shown: it is the loopback address where any reflector is on this
host. -/
def ownAddressText (specs : List ReflectorSpec) (address : Address) : String :=
  if address = .loopback ∧ !specs.contains .scripted then "HOST" else address.print

/-- The place of a reflector among the requested ones. -/
def placeOf (specs : List ReflectorSpec) (name : String) : Json :=
  match (reflectorNames specs).findIdx? (· = name) with
  | some place => Json.ofNat place
  | none => .null

/-- A discovery as a reader sees it. -/
def discoveryJson (specs : List ReflectorSpec) (discovery : Discovery) : Json :=
  let shown := endpointJson (ownAddressText specs)
  .object
    [("listen_port_kept", .bool true), ("local", shown discovery.own),
      ("reflexive", shown discovery.reflexive),
      ("reflector", (discovery.reflector.map (placeOf specs)).getD .null),
      ("symmetric", .bool discovery.symmetric), ("fallback", .bool discovery.fallback)]

/-- The kind of a failed query. -/
def stunFailureKind : Stun.Failure → String
  | .io _ => "Io"
  | .timeout => "Timeout"
  | .invalidResponse => "InvalidResponse"
  | .noServers => "NoServers"

/-- A failed query by its kind and wording. -/
def stunFailure (failure : Stun.Failure) : Json :=
  Json.failureText (stunFailureKind failure) failure.message

/-- A recheck as a reader sees it. -/
def recheckJson (specs : List ReflectorSpec) : Except Stun.Failure Recheck → Json
  | .error failure => stunFailure failure
  | .ok recheck =>
    .object
      [("reflector", placeOf specs recheck.reflector),
        ("mapped", endpointJson Address.print recheck.mapped),
        ("from_listen_port", .bool recheck.fromListenPort)]

/-- The requests that arrived at every reflector: none ever does. -/
def queriesJson (specs : List ReflectorSpec) : Json :=
  .array (specs.map fun _ => .object [("count", Json.ofNat 0), ("from_listen_port", .bool true)])

/-- The answer of a discovery or a recheck. -/
def withQueries (specs : List ReflectorSpec) (result : Json) : Json :=
  .ok (.object [("result", result), ("queries", queriesJson specs)])

/-- The resolved reflectors, in their order, each by the first place of its name. -/
def resolvedJson (specs : List ReflectorSpec) : Json :=
  .array ((Discovery.resolve literalLookup (reflectorNames specs)).map fun reflector =>
    .object
      [("server", placeOf specs reflector.name), ("v4", .bool true),
        ("same", .bool (reflector.name == reflector.address.print))])

/-- Rehearse the discovery of endpoints. -/
def endpoints (request : Json) : Option Json := do
  let specs ← request.listIn reflectorSpec? "servers"
  let count ← request.defaulting Discovery.defaultAttempts Json.nat? "attempts"
  let held ← request.flag "hold_port"
  let names := Discovery.namesOrDefault (reflectorNames specs)
  let reflectors := Discovery.resolve literalLookup names
  match ← actionOf request with
  | "discover" =>
    let own : SocketAddress := { address := .loopback, port := listenPort }
    let (discovery, _) := Discovery.discover isolatedReflectors own count reflectors held
    return withQueries specs (discoveryJson specs discovery)
  | "recheck" =>
    let (recheck, _) := Discovery.recheck isolatedReflectors reflectors held
    return withQueries specs (recheckJson specs recheck)
  | "resolve" => return .ok (resolvedJson specs)
  | _ => none

end MeshNode.Rehearsal
