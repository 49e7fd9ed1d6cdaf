import MeshNode.Reconciler.Run
import MeshNode.Rehearsal.Probing
import MeshNode.Rehearsal.Recorder

/-!
# Rehearsing reconciliation

Path selection for one peer, the reconciler tick by tick against a recording tunnel, and its
loop against scripted fetches.
-/

namespace MeshNode.Rehearsal

/-- Rehearse path selection. -/
def selectPath (request : Json) : Option Json := do
  let node ← request.required LocalNode.ofJson? "local"
  let peer ← request.required PeerRecord.ofJson? "peer"
  let path := PeerPath.select node peer (← request.flag "relay_available")
  let details := match path with
    | .direct config => [("config", config.toJson)]
    | .viaRelay child => [("child_prefixes", PeerRecord.networksJson child)]
    | .converging method => [("intended", method.toJson)]
    | .unreachable => []
  return .ok (.object
    ([("path", .string path.kind), ("method", Json.nullable PeeringMethod.toJson path.method?),
      ("is_self", .bool (node.isSelf peer))] ++ details))

/-- A node, what its next fetches answer, and how its peers answer probes. -/
structure ReconcileState where
  node : Node Recorder
  source : Except ListingError (List PeerRecord) := .ok []
  probes : ProbeScript

/-- A failed fetch as the engine reports it. -/
def listingFailure (error : ListingError) : Json :=
  let error : EngineError := .listing error
  .object
    [("error", .string "Source"), ("message", .string error.message),
      ("unauthorized", .bool error.isUnauthorized)]

/-- The report of a tick. -/
def tickJson (report : TickReport) : Json :=
  .object
    [("outcome", .string report.outcome.name), ("peers", Json.ofNat report.peers),
      ("unreachable", Json.ofNat report.unreachable), ("converging", Json.ofNat report.converging),
      ("apply", report.apply.toJson)]

/-- Read a change of the local node; what is not given stays. -/
def localChange? (step : Json) : Option (LocalNode → LocalNode) := do
  let reflexive ← step.optional Json.socket? "reflexive"
  let supernet ← step.optional (Json.listOf? Json.network?) "relay_supernet"
  let id ← step.optional Json.uuid? "id"
  let relay ← step.optional Json.bool? "relay"
  let symmetricNat ← step.optional Json.bool? "symmetric_nat"
  let relayOnly ← step.optional Json.bool? "relay_only"
  return fun node =>
    { node with
      reflexive := reflexive.getD node.reflexive
      relaySupernet := supernet.getD node.relaySupernet
      id := id.or node.id
      relay := relay.getD node.relay
      symmetricNat := symmetricNat.getD node.symmetricNat
      relayOnly := relayOnly.getD node.relayOnly }

/-- Read what a fetch answers, without its delay. -/
def listingAnswer? (value : Json) (listing : String) :
    Option (Option (Except ListingError (List PeerRecord))) := do
  match ← value.optional (Json.listOf? PeerRecord.ofJson?) listing,
      ← value.optional Json.text? "transient", ← value.optional Json.text? "unauthorized" with
  | some records, _, _ => return some (.ok records)
  | none, some reason, _ => return some (.error (.transient reason))
  | none, none, some reason => return some (.error (.unauthorized reason))
  | none, none, none => return none

/-- One tick and everything that can be seen after it. -/
def tickStep (driver : Driver Recorder) (state : ReconcileState) : Json × ReconcileState :=
  let (outcome, node) := state.node.tick driver state.source
  let result := match outcome with
    | .ok report => tickJson report
    | .error error => listingFailure error
  let (calls, world) := node.world.takeLines
  let phase := Json.string node.reconciler.phase.name
  (.object
    [("result", result), ("state", phase), ("state_display", phase), ("calls", calls),
      ("applied", TunnelPeer.tableJson node.reconciler.applied), ("list", listJson node.cache),
      ("relay_present", .bool node.cache.healthyRelay)],
    { state with node := { node with world } })

/-- A step that is no tick: its result and the state after it. -/
def reconcileAction (state : ReconcileState) (step : Json) : Option (Json × ReconcileState) := do
  let node := state.node
  match ← actionOf step with
  | "listing" =>
    let peers ← step.listIn PeerRecord.ofJson? "peers"
    return (.null, { state with source := .ok peers })
  | "source_error" =>
    let source ← (← listingAnswer? step "peers")
    return (.null, { state with source })
  | "local" =>
    let localNode := node.localNode.update (← localChange? step)
    let generation := Json.ofNat localNode.generation.toNat
    return (.object [("generation", generation), ("visible", .bool true)],
      { state with node := { node with localNode } })
  | "health" =>
    let cache := node.cache.recordHealth (← step.required healths? "results")
    return (.null, { state with node := { node with cache } })
  | "probe" =>
    let probes ← probesOf step state.probes
    let (sweep, cache) :=
      Prober.probeCycle (reachOf probes ·.address) 10 0 node.localNode.relay node.cache
    let addresses := (sweep.calls.map ProbeCall.address).mergeSort fun a b => a.rank ≤ b.rank
    return (.object
        [("results", healthsJson sweep.results),
          ("calls", Json.ofTexts (addresses.map Address.print))],
      { state with node := { node with cache }, probes })
  | "reauth" =>
    return (.null, { state with node := { node with reconciler := node.reconciler.awaitSession } })
  | "resume" =>
    return (.null, { state with node := { node with reconciler := node.reconciler.resume } })
  | _ => none

/-- One step: a change of the tunnel, a tick, or any other change. -/
def reconcileStep (driver : Driver Recorder) (state : ReconcileState) (step : Json) :
    Option (Json × ReconcileState) := do
  match ← state.node.world.step? step with
  | some world => return (.null, { state with node := { state.node with world } })
  | none =>
    if (← actionOf step) = "tick" then return tickStep driver state
    let (result, state) ← reconcileAction state step
    return (.object
      [("result", result), ("state", .string state.node.reconciler.phase.name)], state)

/-- Rehearse the reconciler. -/
def reconciler (request : Json) : Option Json := do
  let (driver, _) ← Recorder.driverOf request
  let localNode ← request.required LocalNode.ofJson? "local"
  let probes ← probesOf request []
  let state : ReconcileState := { node := { localNode, world := {} }, probes }
  return .ok (.array (← runSteps (reconcileStep driver) state (← stepsOf request)))

/-- Read a scripted fetch. -/
def fetch? (value : Json) : Option Reconciler.Fetch := do
  if ← value.flag "stall" then return .stalls
  return .answers (← value.defaulting 0 Json.nat? "delay_ms") (← (← listingAnswer? value "listing"))

/-- How a loop ended. -/
def endingJson : Reconciler.LoopEnding → Json
  | .stopped => .string "stopped"
  | .failed (.listing error) => listingFailure error
  | .failed error => Json.failureText "Engine" error.message
  | .endless => .string "endless"

/-- Rehearse the loop of the reconciler. A period of zero is no period, and the loop breaks
down. -/
def reconcilerLoop (request : Json) : Option Json := do
  let (driver, _) ← Recorder.driverOf request
  let localNode ← request.required LocalNode.ofJson? "local"
  let script ← request.listIn fetch? "script"
  let period ← request.natOf "interval_ms"
  let stop := Shutdown.stopTime? (← eventsOf request)
  if period = 0 then return .failure "Panic"
  let outcome := Reconciler.loop driver period script stop { localNode, world := {} }
  return .ok (.object
    [("result", endingJson outcome.ending), ("at_ms", Json.ofNat outcome.time),
      ("fetches_ms", .array (outcome.fetches.map Json.ofNat)),
      ("state", .string outcome.node.reconciler.phase.name),
      ("calls", outcome.node.world.takeLines.1),
      ("applied", TunnelPeer.tableJson outcome.node.reconciler.applied)])

end MeshNode.Rehearsal
