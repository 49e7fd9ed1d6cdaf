import MeshNode.Stun

/-!
# Discovery of the reflexive endpoint

Two reflectors are asked from the tunnel's listen port. A node whose mapping differs from
reflector to reflector sits behind a symmetric translator and cannot be reached at one learned
address. Discovery never fails: where no reflector answers, the node falls back to its own
address and counts as not symmetric.

An attempt that gets any answer is the last one, and its answers alone are classified. Between
discoveries a recheck asks for one answer; while the listen port is held by a socket that does
not share it, the recheck leaves from another port and says so.
-/

namespace MeshNode

/-- A reflector: the name it is published under and the address it answers at. -/
structure Reflector where
  name : String
  address : SocketAddress
  deriving DecidableEq, Repr

/-- What is known about the node's endpoints. -/
structure Discovery where
  /-- The node's address on its own network, with the listen port. -/
  own : SocketAddress
  /-- The address that other networks see, or the node's own after a fallback. -/
  reflexive : SocketAddress
  /-- The reflector that reported the reflexive address. -/
  reflector : Option String
  symmetric : Bool
  /-- No reflector answered. -/
  fallback : Bool
  deriving DecidableEq, Repr

/-- One answer between discoveries. -/
structure Recheck where
  reflector : String
  mapped : SocketAddress
  /-- If not, only the address of the mapping says anything about the tunnel. -/
  fromListenPort : Bool
  deriving DecidableEq, Repr

/-- The port a query leaves from. -/
inductive SourcePort where
  | listen
  | ephemeral
  deriving DecidableEq, Repr

/-- Why a port could not be bound. -/
inductive BindFailure where
  | inUse
  | other (text : String)
  deriving DecidableEq, Repr

/-- A way to ask reflectors, with states of type `World`: binding a port and one query from a
bound port. -/
structure ReflectorClient (World : Type) where
  bind : SourcePort → World → Except BindFailure Unit × World
  query : SourcePort → Reflector → World → Except Stun.Failure SocketAddress × World

/-- Mappings of one source port are symmetric if any two of them differ. -/
def isSymmetric : List SocketAddress → Bool
  | [] => false
  | first :: rest => rest.any (· ≠ first)

namespace Discovery

/-- The reflectors that are asked where none are configured. -/
def defaultReflectors : List String :=
  ["stun1.l.google.com:19302", "stun2.l.google.com:19302", "stun.cloudflare.com:3478"]

/-- The configured names, or the default ones. -/
def namesOrDefault (names : List String) : List String :=
  if names.isEmpty then defaultReflectors else names

/-- The attempts that a discovery makes by default. -/
def defaultAttempts : Nat := 3

/-- The reflectors behind names, each with its first address of version four; a name without one
is left out. -/
def resolve (lookup : String → List SocketAddress) (names : List String) : List Reflector :=
  names.filterMap fun name =>
    ((lookup name).find? fun socket => socket.address.family = .v4).map fun socket => ⟨name, socket⟩

variable {World : Type} (client : ReflectorClient World)

/-- A reflector's name and the mapping it reported. -/
abbrev Answer := String × SocketAddress

/-- Ask reflectors in order until the wanted number has answered. -/
def collect (port : SourcePort) : (wanted : Nat) → List Reflector → World → List Answer × World
  | 0, _, world => ([], world)
  | _ + 1, [], world => ([], world)
  | wanted + 1, reflector :: rest, world =>
    match client.query port reflector world with
    | (.error _, world) => collect port (wanted + 1) rest world
    | (.ok mapped, world) =>
      let (answers, world) := collect port wanted rest world
      ((reflector.name, mapped) :: answers, world)

/-- One attempt: up to two answers from the listen port, and none where it cannot be bound. -/
def attempt (reflectors : List Reflector) (world : World) : List Answer × World :=
  match client.bind .listen world with
  | (.error _, world) => ([], world)
  | (.ok (), world) => collect client .listen 2 reflectors world

/-- Attempts up to the first that gets an answer. -/
def attempts (reflectors : List Reflector) : (count : Nat) → World → List Answer × World
  | 0, world => ([], world)
  | count + 1, world =>
    match attempt client reflectors world with
    | ([], world) => attempts reflectors count world
    | (answers, world) => (answers, world)

/-- The verdict on the answers of one attempt. -/
def classify (own : SocketAddress) : List Answer → Discovery
  | [] => { own, reflexive := own, reflector := none, symmetric := false, fallback := true }
  | (name, mapped) :: rest =>
    { own
      reflexive := mapped
      reflector := some name
      symmetric := isSymmetric (mapped :: rest.map Prod.snd)
      fallback := false }

/-- Discover the reflexive endpoint in at most the given number of attempts, and at least one. -/
def discover (own : SocketAddress) (count : Nat) (reflectors : List Reflector) (world : World) :
    Discovery × World :=
  let (answers, world) := attempts client reflectors (max count 1) world
  (classify own answers, world)

/-! ## Rechecks -/

/-- The first answer from a bound port. -/
def firstAnswer (port : SourcePort) (reflectors : List Reflector) (world : World) :
    Except Stun.Failure Recheck × World :=
  match collect client port 1 reflectors world with
  | ((name, mapped) :: _, world) => (.ok ⟨name, mapped, port = .listen⟩, world)
  | ([], world) => (.error .timeout, world)

/-- The failure of a query whose port could not be bound. -/
def bindFailure : BindFailure → Stun.Failure
  | .inUse => .io "Address already in use (os error 98)"
  | .other text => .io text

/-- Ask for one answer, from the listen port or, while it is held, from another one. -/
def recheck (reflectors : List Reflector) (world : World) : Except Stun.Failure Recheck × World :=
  if reflectors.isEmpty then (.error .noServers, world)
  else
    match client.bind .listen world with
    | (.ok (), world) => firstAnswer client .listen reflectors world
    | (.error (.other text), world) => (.error (.io text), world)
    | (.error .inUse, world) =>
      match client.bind .ephemeral world with
      | (.ok (), world) => firstAnswer client .ephemeral reflectors world
      | (.error failure, world) => (.error (bindFailure failure), world)

/-! ## Moves -/

/-- The reflexive endpoint that a recheck points at: an answer to another port leaves the learned
port alone. -/
def observed (discovery : Discovery) (recheck : Recheck) : SocketAddress :=
  if recheck.fromListenPort then recheck.mapped
  else { address := recheck.mapped.address, port := discovery.reflexive.port }

/-- Whether a recheck shows another endpoint than the known one. -/
def movedBy (discovery : Discovery) (recheck : Recheck) : Bool :=
  discovery.reflexive ≠ discovery.observed recheck

/-- The discovery after a move. -/
def adopt (discovery : Discovery) (recheck : Recheck) : Discovery :=
  { discovery with
    reflexive := discovery.observed recheck
    reflector := some recheck.reflector
    fallback := false }

end Discovery

end MeshNode
