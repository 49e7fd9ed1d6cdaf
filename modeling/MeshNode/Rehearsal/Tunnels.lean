import MeshNode.Rehearsal.Recorder

/-!
# Rehearsing the applier and the kernel's tunnel

The applier against a recording tunnel, and the kernel's tunnel against a recording system.
-/

namespace MeshNode.Rehearsal

/-- The applier, its tunnel, and every key that was mentioned so far. -/
structure ApplierState where
  applier : Applier := {}
  recorder : Recorder := {}
  seen : List PublicKey := []

/-- One step: a change of the surroundings, or a pass of the applier. -/
def applierStep (driver : Driver Recorder) (state : ApplierState) (step : Json) :
    Option (Json × ApplierState) := do
  match ← state.recorder.step? step with
  | some recorder => return (.null, { state with recorder })
  | none =>
    guard ((← actionOf step) = "apply")
    let added ← step.listOrEmpty TunnelPeer.ofJson? "added"
    let removed ← step.listOrEmpty Json.publicKey? "removed"
    let seen := (state.seen ++ added.map TunnelPeer.publicKey ++ removed).eraseDups
    let pass := Applier.apply driver added removed state.applier state.recorder
    let (calls, recorder) := pass.world.takeLines
    let installed := seen.map fun key =>
      (key.toBase64, PeerRecord.networksJson (pass.applier.routesOf key))
    return (.object
        [("report", pass.report.toJson), ("calls", calls), ("installed", .object installed)],
      { applier := pass.applier, recorder, seen })

/-- Rehearse the applier. -/
def applier (request : Json) : Option Json := do
  let (driver, kind) ← Recorder.driverOf request
  let answers ← runSteps (applierStep driver) {} (← stepsOf request)
  return .ok (.object [("kind", .string kind.name), ("steps", .array answers)])

/-- The result of a tunnel request. -/
def resultJson {α : Type} (encode : α → Json) : Except TunnelError α → Json
  | .ok value => .ok (encode value)
  | .error error => error.toJson

/-- The result of a request that answers nothing. -/
def doneJson (result : Except TunnelError Unit) : Json := resultJson (fun _ => .null) result

/-- The request that a step makes of the kernel's tunnel, carried out. -/
def kernelAction (tunnel : KernelTunnel) (recorder : Recorder) (step : Json) :
    Option (Json × Recorder) := do
  let driver := tunnel.driver Recorder.runner
  let network := step.required Json.network? "prefix"
  let done := fun (outcome : Except TunnelError Unit × Recorder) => (doneJson outcome.1, outcome.2)
  match ← actionOf step with
  | "teardown" => return done (tunnel.teardown Recorder.runner recorder)
  | "setup" =>
    let listenPort ← step.required (Json.natBelow? 65536) "listen_port"
    let addresses ← step.listIn Json.network? "addresses"
    let relay ← step.flag "relay"
    return done (tunnel.setup Recorder.runner ⟨UInt16.ofNat listenPort, addresses, relay⟩ recorder)
  | "configure" =>
    return done (driver.answer (.configure (← step.required TunnelPeer.ofJson? "peer")) recorder)
  | "remove" =>
    return done (driver.answer (.remove (← step.required Json.publicKey? "peer")) recorder)
  | "route_exists" =>
    let (found, recorder) := driver.answer (.routeExists (← network)) recorder
    return (resultJson Json.bool found, recorder)
  | "add_route" => return done (driver.answer (.addRoute (← network)) recorder)
  | "del_route" => return done (driver.answer (.deleteRoute (← network)) recorder)
  | _ => none

/-- One step: a change of the surroundings, or a request. -/
def kernelStep (tunnel : KernelTunnel) (recorder : Recorder) (step : Json) :
    Option (Json × Recorder) := do
  match ← recorder.step? step with
  | some recorder => return (.null, recorder)
  | none =>
    let (result, recorder) ← kernelAction tunnel recorder step
    let (calls, recorder) := recorder.takeLines
    return (.object [("result", result), ("calls", calls)], recorder)

/-- Rehearse the kernel's tunnel. -/
def kernel (request : Json) : Option Json := do
  let tunnel : KernelTunnel := ⟨← request.textOf "interface", ← request.textOf "key_path"⟩
  let answers ← runSteps (kernelStep tunnel) {} (← stepsOf request)
  return .ok (.object
    [("kind", .string TunnelKind.kernel.name), ("interface", .string tunnel.interface),
      ("steps", .array answers)])

end MeshNode.Rehearsal
