import MeshNode.Rehearsal
import MeshNode.Tunnel.Kernel
import MeshNode.Tunnel.Wire

/-!
# Recording tunnels

A recorder writes down every call as a line. It is a tunnel with a route table of its own, or
the system below the kernel's tunnel, whose commands it pretends to run. Calls can be made to
fail by how their line begins; of several such rules the one with the smallest beginning
decides. A failing call is written down and changes nothing else.
-/

namespace MeshNode.Rehearsal

/-- What a recorder knows: its lines, the last first, its routes, which calls fail with which
message, and what commands print. -/
structure Recorder where
  lines : List String := []
  routes : List Network := []
  failures : List (String × String) := []
  outputs : List (String × String) := []

namespace Recorder

/-- Write a line down. -/
def note (recorder : Recorder) (line : String) : Recorder :=
  { recorder with lines := line :: recorder.lines }

/-- The message that a call fails with, if it does. -/
def failure? (recorder : Recorder) (line : String) : Option String :=
  let hits := recorder.failures.filter fun rule => (Text.after? rule.1 line).isSome
  ((hits.mergeSort fun a b => decide (a.1 ≤ b.1)).head?).map Prod.snd

/-- The lines since the last time, and the recorder without them. -/
def takeLines (recorder : Recorder) : Json × Recorder :=
  (Json.ofTexts recorder.lines.reverse, { recorder with lines := [] })

/-- The line of a request. -/
def lineOf : Request → String
  | .configure peer =>
    let keepalive := match peer.keepalive with
      | some seconds => toString seconds.toNat
      | none => "none"
    let allowed := Text.joined "," (peer.allowed.map Network.print)
    Text.joined " "
      ["configure", peer.publicKey.toBase64, peer.method.name, peer.endpoint.print,
        s!"[{allowed}]", keepalive]
  | .remove key => s!"remove {key.toBase64}"
  | .routeExists network => s!"route_exists {network.print}"
  | .addRoute network => s!"add_route {network.print}"
  | .deleteRoute network => s!"del_route {network.print}"

/-- Put a route into the table. -/
def install (network : Network) (recorder : Recorder) : Recorder :=
  { recorder with routes := network :: recorder.routes.filter (· ≠ network) }

/-- What a request answers and changes in the route table. -/
def granted : (request : Request) → Recorder → request.Reply × Recorder
  | .configure _, recorder => ((), recorder)
  | .remove _, recorder => ((), recorder)
  | .routeExists network, recorder => (recorder.routes.contains network, recorder)
  | .addRoute network, recorder => ((), recorder.install network)
  | .deleteRoute network, recorder =>
    ((), { recorder with routes := recorder.routes.filter (· ≠ network) })

/-- A tunnel with a route table. -/
def tableDriver : Driver Recorder where
  answer request recorder :=
    let recorder := recorder.note (lineOf request)
    match recorder.failure? (lineOf request) with
    | some message => (.error (.wireGuard message), recorder)
    | none =>
      let (reply, recorder) := granted request recorder
      (.ok reply, recorder)

/-- A system that runs no command and prints what it was told to. -/
def runner : CommandRunner Recorder where
  run command recorder :=
    let recorder := recorder.note command.line
    match recorder.failure? command.line with
    | some message => (.error (.command command.program command.argumentLine 2 message), recorder)
    | none => (.ok ((recorder.outputs.lookup command.line).getD ""), recorder)

/-- Put a pair in the place of those with the same first part. -/
def replacePair (pairs : List (String × String)) (key value : String) : List (String × String) :=
  (key, value) :: pairs.filter fun pair => pair.1 ≠ key

/-- A step that changes the recorder and nothing else; absent where the step is of another kind. -/
def step? (recorder : Recorder) (step : Json) : Option (Option Recorder) := do
  match ← actionOf step with
  | "fail" =>
    let call ← step.textOf "call"
    let message ← step.textOf "message"
    return some { recorder with failures := replacePair recorder.failures call message }
  | "heal" =>
    let call ← step.textOf "call"
    return some { recorder with failures := recorder.failures.filter fun rule => rule.1 ≠ call }
  | "stdout" =>
    let call ← step.textOf "call"
    let text ← step.textOf "text"
    return some { recorder with outputs := replacePair recorder.outputs call text }
  | "preinstall" =>
    let network ← step.required Json.network? "prefix"
    return some (recorder.install network)
  | _ => return none

/-- The kernel's tunnel of a rehearsal. -/
def kernelTunnel : KernelTunnel := ⟨"wg0", "/var/lib/weft/private.key"⟩

/-- The tunnel that a request wants: the kernel's, or one with a route table, which passes for a
userspace tunnel. -/
def driverOf (request : Json) : Option (Driver Recorder × TunnelKind) := do
  match ← request.optional Json.text? "backend" with
  | none => return (tableDriver, .userspace)
  | some "kernel" => return (kernelTunnel.driver runner, .kernel)
  | some _ => none

end Recorder

end MeshNode.Rehearsal
