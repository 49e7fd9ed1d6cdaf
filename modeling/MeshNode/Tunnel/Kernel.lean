import MeshNode.Tunnel

/-!
# The kernel's tunnel

The tunnel interface of the operating system, driven by command lines: `ip` for links,
addresses and routes, `wg` for peers, `sysctl` for forwarding. A `CommandRunner` runs
them over some state of its own, so the same driver works against a real system, a
recording one and an idealised kernel.

Adding a route that is there and deleting one that is gone succeed. Every other failing
command fails the request.
-/

namespace MeshNode

/-- A program and its arguments. -/
structure Command where
  program : String
  arguments : List String
  deriving DecidableEq, Repr

namespace Command

/-- The arguments with blanks between them. -/
def argumentLine (command : Command) : String := Text.joined " " command.arguments

/-- The whole line. -/
def line (command : Command) : String := s!"{command.program} {command.argumentLine}"

end Command

/-- Something that runs commands over states of type `World` and answers with their
output. -/
structure CommandRunner (World : Type) where
  run : Command → World → Except TunnelError String × World

/-- How the interface is brought up. -/
structure InterfaceSettings where
  listenPort : UInt16
  /-- Tunnel addresses with the length of the organization's prefix. -/
  addresses : List Network
  /-- A relay forwards between peers. -/
  relay : Bool
  deriving DecidableEq, Repr

/-- A kernel interface by its name, and the file that holds the private key. -/
structure KernelTunnel where
  interface : String
  keyPath : String
  deriving DecidableEq, Repr

namespace KernelTunnel

/-- The flag that selects a prefix's family. -/
def familyFlag (network : Network) : String :=
  match network.address with
  | .v4 _ => "-4"
  | .v6 _ => "-6"

/-- An `ip` command. -/
def ip (arguments : List String) : Command := ⟨"ip", arguments⟩

/-- A `wg` command. -/
def wg (arguments : List String) : Command := ⟨"wg", arguments⟩

variable (tunnel : KernelTunnel)

/-- Show the interface; the command fails where there is none. -/
def showLink : Command := ip ["link", "show", tunnel.interface]

/-- Delete the interface. -/
def deleteLink : Command := ip ["link", "del", tunnel.interface]

/-- Create the interface. -/
def addLink : Command := ip ["link", "add", tunnel.interface, "type", "wireguard"]

/-- Bring the interface up. -/
def raiseLink : Command := ip ["link", "set", tunnel.interface, "up"]

/-- Set the listen port and the private key. -/
def setListener (port : UInt16) : Command :=
  wg ["set", tunnel.interface, "listen-port", toString port.toNat, "private-key", tunnel.keyPath]

/-- Give the interface an address. -/
def setAddress (address : Network) : Command :=
  ip [familyFlag address, "address", "replace", address.print, "dev", tunnel.interface]

/-- Let packets be forwarded, in both families. -/
def forwarding : List Command :=
  [⟨"sysctl", ["-w", "net.ipv4.ip_forward=1"]⟩,
    ⟨"sysctl", ["-w", "net.ipv6.conf.all.forwarding=1"]⟩]

/-- Add a peer or change it in place. -/
def setPeer (peer : TunnelPeer) : Command :=
  wg ["set", tunnel.interface, "peer", peer.publicKey.toBase64,
    "endpoint", peer.endpoint.print,
    "persistent-keepalive", toString (peer.keepalive.getD 0).toNat,
    "allowed-ips", Text.joined "," (peer.allowed.map Network.print)]

/-- Remove a peer. -/
def removePeer (key : PublicKey) : Command :=
  wg ["set", tunnel.interface, "peer", key.toBase64, "remove"]

/-- A command on one route through the interface. -/
def route (verb : String) (network : Network) : Command :=
  ip [familyFlag network, "route", verb, network.print, "dev", tunnel.interface]

/-- Whether an output has a line that is not blank. -/
def hasLine (output : String) : Bool := output.toList.any fun c => !Text.isBlank c

variable {World : Type} (runner : CommandRunner World)

/-- Run a command for its effect. -/
def perform (command : Command) (world : World) : Except TunnelError Unit × World :=
  let (result, world) := runner.run command world
  (result.map fun _ => (), world)

/-- Run a command for its effect; a failure that uses the given words is none. -/
def performUnless (words : String) (command : Command) (world : World) :
    Except TunnelError Unit × World :=
  match runner.run command world with
  | (.ok _, world) => (.ok (), world)
  | (.error error, world) => (if error.mentions words then .ok () else .error error, world)

/-- Run commands up to the first that fails. -/
def performAll : List Command → World → Except TunnelError Unit × World
  | [], world => (.ok (), world)
  | command :: rest, world =>
    match perform runner command world with
    | (.ok (), world) => performAll rest world
    | (.error error, world) => (.error error, world)

/-- Remove an interface left over from an earlier run; without one there is nothing to do. -/
def teardown (world : World) : Except TunnelError Unit × World :=
  match runner.run tunnel.showLink world with
  | (.error _, world) => (.ok (), world)
  | (.ok _, world) => perform runner tunnel.deleteLink world

/-- The commands that bring up an existing interface. -/
def setupCommands (settings : InterfaceSettings) : List Command :=
  tunnel.setListener settings.listenPort :: settings.addresses.map tunnel.setAddress ++
    tunnel.raiseLink :: (if settings.relay then forwarding else [])

/-- Bring the interface up, creating it where it is missing. -/
def setup (settings : InterfaceSettings) (world : World) : Except TunnelError Unit × World :=
  match runner.run tunnel.showLink world with
  | (.ok _, world) => performAll runner (tunnel.setupCommands settings) world
  | (.error _, world) => performAll runner (tunnel.addLink :: tunnel.setupCommands settings) world

/-- Answer one request by running its command. -/
def answer : (request : Request) → World → Except TunnelError request.Reply × World
  | .configure peer, world => perform runner (tunnel.setPeer peer) world
  | .remove key, world => perform runner (tunnel.removePeer key) world
  | .routeExists network, world =>
    let (result, world) := runner.run (tunnel.route "show" network) world
    (result.map hasLine, world)
  | .addRoute network, world =>
    performUnless runner "File exists" (tunnel.route "add" network) world
  | .deleteRoute network, world =>
    performUnless runner "No such process" (tunnel.route "del" network) world

/-- The kernel's tunnel as a driver. -/
def driver : Driver World := ⟨answer tunnel runner⟩

end KernelTunnel

end MeshNode
