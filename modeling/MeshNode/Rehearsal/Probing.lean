import MeshNode.Prober
import MeshNode.Rehearsal
import MeshNode.Tunnel.Wire

/-!
# Rehearsing the cache and the prober

The device cache by itself, and the prober against peers that answer as scripted: an address
that no script mentions answers after five milliseconds with a latency of two.
-/

namespace MeshNode.Rehearsal

/-- Read a cache entry. -/
def entry? (value : Json) : Option CacheEntry := do
  let record ← value.required PeerRecord.ofJson? "record"
  let method ← value.optional PeeringMethod.ofJson? "method"
  let endpoint ← value.optional Json.socket? "endpoint"
  let allowed ← value.listOrEmpty Json.network? "allowed_ips"
  return ⟨record, method, endpoint, allowed⟩

/-- Read cache entries; of entries with one identifier the last counts. -/
def entriesOf (value : Json) : Option (Table Uuid CacheEntry) := do
  let entries ← value.listIn entry? "entries"
  return Table.ofList (entries.map fun entry => (entry.record.id, entry))

/-- Read a health. A peer that answered has a latency, zero if none is given; one that did not has
none. -/
def health? (value : Json) : Option Health := do
  let latency ← value.defaulting 0 Json.nat? "latency_ns"
  return if ← value.required Json.bool? "reachable" then .answered latency else .silent

/-- Read healths by key. -/
def healths? : Json → Option (Table PublicKey Health)
  | .object members => do
    let pairs ← members.mapM fun (name, value) => do
      return ((← (PublicKey.ofBase64 name).toOption), (← health? value))
    return Table.ofList pairs
  | _ => none

/-- A health with its latency in milliseconds. -/
def healthJson (health : Health) : Json :=
  .object [("reachable", .bool health.reachable), ("latency", Health.latencyJson health.latency)]

/-- Healths by key. -/
def healthsJson (healths : Table PublicKey Health) : Json :=
  .object (healths.entries.map fun (key, health) => (key.toBase64, healthJson health))

/-- The list of a cache. -/
def listJson (cache : DeviceCache) : Json := .array (cache.list.map PeerView.toJson)

/-- A cache entry with all its fields. -/
def entryJson (entry : CacheEntry) : Json :=
  .object
    [("record", entry.record.toJson),
      ("method", Json.nullable PeeringMethod.toJson entry.method),
      ("endpoint", Json.nullable (fun socket => .string socket.print) entry.endpoint),
      ("allowed_ips", PeerRecord.networksJson entry.allowed)]

/-- A probe target. -/
def targetJson (target : ProbeTarget) : Json :=
  .object [("peer", Json.ofKey target.publicKey), ("address", .string target.address.print)]

/-- Read a probe target. -/
def target? (value : Json) : Option ProbeTarget := do
  return ⟨← value.required Json.publicKey? "peer", ← value.required Json.address? "address"⟩

/-- One operation on the cache. -/
def cacheAction (cache : DeviceCache) (step : Json) : Option (Json × DeviceCache) := do
  match ← actionOf step with
  | "replace" => return (.null, cache.replace (← entriesOf step))
  | "record_health" => return (.null, cache.recordHealth (← step.required healths? "results"))
  | "health" =>
    let key ← step.required Json.publicKey? "peer"
    return (Json.nullable healthJson (cache.health.get? key), cache)
  | "relay_among" =>
    let records ← step.listIn PeerRecord.ofJson? "records"
    return (.bool (cache.relayHealthyAmong records), cache)
  | "healthy_relay" => return (.bool cache.healthyRelay, cache)
  | "list" => return (listJson cache, cache)
  | "targets" =>
    let family ← step.required Json.family? "family"
    return (.array ((cache.probeTargets family).map targetJson), cache)
  | "snapshot" =>
    let members := cache.snapshot.entries.map fun (id, entry) => (id.print, entryJson entry)
    return (.object members, cache)
  | _ => none

/-- One operation on the cache, and how many devices it holds then. -/
def cacheStep (cache : DeviceCache) (step : Json) : Option (Json × DeviceCache) := do
  let (result, cache) ← cacheAction cache step
  return (.object
    [("result", result), ("len", Json.ofNat cache.snapshot.size),
      ("is_empty", .bool (cache.snapshot.size == 0))], cache)

/-- Rehearse the device cache. -/
def cache (request : Json) : Option Json := do
  return .ok (.array (← runSteps cacheStep {} (← stepsOf request)))

/-! ## Scripted peers -/

/-- What the probes of some addresses come to; an earlier entry hides a later one. -/
abbrev ProbeScript := List (Address × ProbeOutcome)

/-- The failure of a scripted probe. -/
def probeFailure? (address : Address) (name : String) : Option ProbeError :=
  match name with
  | "timeout" => some .timeout
  | "io" => some (.io "injected")
  | "noroute" => some (.noRoute address)
  | "unsupported" => some .ipv4Only
  | _ => none

/-- Read what the probe of an address comes to. -/
def probeOutcome? (address : Address) (value : Json) : Option ProbeOutcome := do
  let delay ← value.defaulting 5 Json.nat? "delay_ms"
  match ← value.optional Json.text? "error" with
  | some name => return ⟨delay, .error (← probeFailure? address name)⟩
  | none => return ⟨delay, .ok (1000 * (← value.defaulting 2000 Json.nat? "rtt_us"))⟩

/-- Read a probe script. -/
def probeScript? : Json → Option ProbeScript
  | .object members => members.mapM fun (name, value) => do
    let address ← Address.parse? name
    return (address, ← probeOutcome? address value)
  | _ => none

/-- The probe script of a request, before one that was given earlier. -/
def probesOf (request : Json) (earlier : ProbeScript) : Option ProbeScript := do
  return (← request.defaulting [] probeScript? "probes") ++ earlier

/-- The outcome that a script gives an address. -/
def reachOf (script : ProbeScript) (address : Address) : ProbeOutcome :=
  (script.lookup address).getD ⟨5, .ok 2000000⟩

/-- The calls by time and address. -/
def callsJson (timeout : Nat) (calls : List ProbeCall) : Json :=
  let order := fun (a b : ProbeCall) =>
    if a.time = b.time then a.address.rank ≤ b.address.rank else a.time ≤ b.time
  .array ((calls.mergeSort fun a b => decide (order a b)).map fun call =>
    .object
      [("at_ms", Json.ofNat call.time), ("address", .string call.address.print),
        ("timeout_ms", Json.ofNat timeout)])

/-- How the prober of a request is set. -/
structure ProberSettings where
  batchSize : Nat
  timeout : Nat

/-- Read how the prober is set; ten probes at once and 1200 ms are the defaults. -/
def proberSettings? (request : Json) : Option ProberSettings := do
  return ⟨← request.defaulting 10 Json.nat? "batch_size",
    ← request.defaulting 1200 Json.nat? "timeout_ms"⟩

/-- One operation of the prober. -/
def proberAction (batchSize : Nat) (reach : Address → ProbeOutcome) (cache : DeviceCache)
    (step : Json) : Option (Json × Sweep × DeviceCache) := do
  match ← actionOf step with
  | "replace" => return (.null, {}, cache.replace (← entriesOf step))
  | "probe_all" =>
    let sweep := Prober.probeAll (reach ·.address) batchSize 0 (← step.listIn target? "targets")
    return (healthsJson sweep.results, sweep, cache)
  | "probe_family" =>
    let family ← step.required Json.family? "family"
    let relay ← step.flag "local_is_relay"
    let (sweep, cache) := Prober.probeFamily (reach ·.address) batchSize 0 family relay cache
    return (healthsJson sweep.results, sweep, cache)
  | "probe_cycle" =>
    let relay ← step.flag "local_is_relay"
    let (sweep, cache) := Prober.probeCycle (reach ·.address) batchSize 0 relay cache
    return (healthsJson sweep.results, sweep, cache)
  | _ => none

/-- One step of the prober; its probes join the script. -/
def proberStep (settings : ProberSettings) (state : DeviceCache × ProbeScript) (step : Json) :
    Option (Json × (DeviceCache × ProbeScript)) := do
  let probes ← probesOf step state.2
  let (result, sweep, cache) ← proberAction settings.batchSize (reachOf probes) state.1 step
  return (.object
    [("result", result), ("calls", callsJson settings.timeout sweep.calls),
      ("list", listJson cache)],
    (cache, probes))

/-- Rehearse the prober. -/
def prober (request : Json) : Option Json := do
  let settings ← proberSettings? request
  let probes ← probesOf request []
  return .ok (.array (← runSteps (proberStep settings) ({}, probes) (← stepsOf request)))

/-- Read an event of the shutdown channel. -/
def event? (value : Json) : Option Shutdown.Event := do
  return ⟨← value.natOf "at_ms", ← value.optional Json.bool? "send"⟩

/-- The events of a request by time. -/
def eventsOf (request : Json) : Option (List Shutdown.Event) := do
  return (← request.listIn event? "events").mergeSort fun a b => a.time ≤ b.time

/-- Rehearse the loop of the prober. A period of zero is no period, and the loop breaks down. -/
def proberLoop (request : Json) : Option Json := do
  let settings ← proberSettings? request
  let probes ← probesOf request []
  let node ← request.required LocalNode.ofJson? "local"
  let entries ← entriesOf request
  let period ← request.natOf "interval_ms"
  let stop := Shutdown.stopTime? (← eventsOf request)
  let relayAt ← request.optional Json.nat? "relay_at_ms"
  if period = 0 then return .failure "Panic"
  let outcome := Prober.run (reachOf probes ·.address) settings.batchSize period
    (if node.relay then some 0 else relayAt) stop (DeviceCache.replace entries {})
  return .ok (.object
    [("stopped", .bool outcome.stopped.isSome), ("at_ms", Json.ofNat (outcome.stopped.getD 0)),
      ("calls", callsJson settings.timeout outcome.calls), ("list", listJson outcome.cache)])

/-- How long a rehearsal waits for something that may never come. -/
def patience : Nat := 3600000

/-- Rehearse work under a stop, or the wait for the stop alone. -/
def untilShutdown (request : Json) : Option Json := do
  let answer := fun (result : Json) (time : Nat) =>
    Json.ok (.object [("result", result), ("at_ms", Json.ofNat time)])
  let initial ← request.flag "initial"
  let events ← eventsOf request
  if ← request.flag "requested_only" then
    match Shutdown.firstRequest? events with
    | some (time, stops) => return answer (.bool stops) time
    | none => return answer (.string "pending") patience
  else
    match Shutdown.untilStopped initial (← request.defaulting 0 Json.nat? "work_ms") events with
    | (.done, time) => return answer (.string "done") time
    | (.stopped, time) => return answer .null time

end MeshNode.Rehearsal
