import MeshNode.Rehearsal.Probing
import MeshNode.Status
import MeshNode.Status.Target

/-!
# Rehearsing the status interface

Requests one after another against a cache with given entries and healths, and peers that answer
probes as scripted.
-/

namespace MeshNode.Rehearsal

/-- Whether a character may stand in the name of a method. -/
def isMethodChar (c : Char) : Bool :=
  c.isAlphanum || "!#$%&'*+-.^_|~".toList.contains c || c.toNat = 0x60

/-- The method of a request. -/
def methodOf (request : Json) : Option Status.Method := do
  let name ← request.textOf "method"
  guard (!name.isEmpty && name.toList.all isMethodChar)
  return Status.Method.ofName name

/-- The path that a request asks for. -/
def targetOf (request : Json) : Option (List Char) := do
  Status.Target.read? (← request.textOf "path")

/-- One request. -/
def statusStep (reach : Address → ProbeOutcome) (node : LocalNode) (cache : DeviceCache)
    (request : Json) : Option (Json × DeviceCache) := do
  let method ← methodOf request
  let (reply, cache) := Status.answer reach 10 node method (← targetOf request) cache
  return (.object
    [("status", Json.ofNat reply.code), ("body", Status.bodyFor method reply)], cache)

/-- Rehearse the status interface. -/
def status (request : Json) : Option Json := do
  let node ← request.required LocalNode.ofJson? "local"
  let entries ← entriesOf request
  let probes ← probesOf request []
  let healths ← request.defaulting Table.empty healths? "health"
  let cache := ((DeviceCache.replace entries {}).recordHealth healths)
  let answers ← runSteps (statusStep (reachOf probes) node) cache (← request.listIn some "requests")
  return .ok (.array answers)

end MeshNode.Rehearsal
