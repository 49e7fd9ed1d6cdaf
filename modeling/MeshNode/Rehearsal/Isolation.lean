import MeshNode.Coordinator
import MeshNode.Discovery
import MeshNode.SystemEcho
import MeshNode.Tunnel.Userspace

/-!
# A host without a network

Rehearsals run on a host that reaches nobody: sockets can be opened and ports bound, but
nothing that is sent leaves the host and nothing ever arrives. So no reflector, no peer and no
coordinator answers, and every outcome is that of the failure paths.
-/

namespace MeshNode.Rehearsal

/-- What the system says when a datagram or a connection finds no way out. -/
def unreachable : String := "Network is unreachable (os error 101)"

/-- Reflectors that cannot be reached; the state tells whether another socket holds the listen
port. -/
def isolatedReflectors : ReflectorClient Bool where
  bind port held := (if port = .listen && held then .error .inUse else .ok (), held)
  query _ _ held := (.error (.io unreachable), held)

/-- A socket whose datagrams never leave. -/
def isolatedSocket : DatagramSocket Unit where
  send _ _ world := (.error unreachable, world)
  identification world := (0, world)

/-- Sockets for echoes that cannot be connected, not even to the host itself. -/
def isolatedEchoes : EchoSystem Unit where
  grant _ _ world := (.ok (), world)
  connect _ world := (.error unreachable, world)
  send _ world := (.error unreachable, world)

/-- A transport whose requests never leave. -/
def isolatedTransport {World : Type} : Transport World where
  send _ world := (.error unreachable, world)

/-- A session that never hears from its peer: the first packet starts a handshake and every later
one waits for it. The state tells whether the handshake was started. -/
def lonelySession : SessionProtocol Bool where
  start _ _ := false
  encapsulate _ started := (if started then .queued else .datagram [], true)
  decapsulate _ _ started := (none, started)

end MeshNode.Rehearsal
