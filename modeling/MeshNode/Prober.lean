import MeshNode.Clock
import MeshNode.Probe
import MeshNode.Shutdown

/-!
# Probing peers

The prober measures every cached peer in batches of fixed size: all probes of a batch run
at once, and the next batch starts when the last of them has finished. Results only ever
touch the health table. A relay probes nobody, because the other nodes probe it.

A periodic cycle covers both families, and a peer is reachable if either of its addresses
answers; the IPv4 answer counts first. A probe of one family alone records that family's
answers alone.
-/

namespace MeshNode

/-- What one probe comes to: after some milliseconds, a latency in nanoseconds or a failure. -/
structure ProbeOutcome where
  delay : Nat
  result : Except ProbeError Nat

/-- The health that an outcome stands for. -/
def ProbeOutcome.health (outcome : ProbeOutcome) : Health :=
  match outcome.result with
  | .ok latency => Health.answered latency
  | .error _ => Health.silent

/-- One probe as it was started. -/
structure ProbeCall where
  time : Nat
  address : Address
  deriving DecidableEq, Repr

/-- The probes so far: the last outcome of each key, the calls in their order, and when the last
batch finished. -/
structure Sweep where
  results : Table PublicKey Health := Table.empty
  calls : List ProbeCall := []
  finished : Nat := 0
  deriving DecidableEq, Repr

namespace Prober

/-- Cut a list into batches of a size; a size of zero counts as one. -/
def batches {α : Type} (size : Nat) : List α → List (List α)
  | [] => []
  | first :: rest => (first :: rest.take (size - 1)) :: batches size (rest.drop (size - 1))
termination_by items => items.length
decreasing_by simp only [List.length_drop, List.length_cons]; omega

/-- Put what the probes of some targets came to into results, in their order. Of two targets with
one key the later counts. -/
def enter (results : Table PublicKey Health) (probed : List (ProbeTarget × ProbeOutcome)) :
    Table PublicKey Health :=
  probed.foldl (fun results (target, outcome) => results.insert target.publicKey outcome.health)
    results

-- What the probe of a target comes to. A probe is told the address alone, but the probes of two
-- targets with one address may still come to different things.
variable (reach : ProbeTarget → ProbeOutcome)

/-- Probe one batch, all at once, and wait for the slowest. -/
def probeBatch (sweep : Sweep) (batch : List ProbeTarget) : Sweep :=
  { results := enter sweep.results (batch.map fun target => (target, reach target))
    calls := sweep.calls ++ batch.map fun target => ⟨sweep.finished, target.address⟩
    finished := sweep.finished +
      batch.foldl (fun longest target => max longest (reach target).delay) 0 }

/-- Probe all targets from a time on. -/
def probeAll (batchSize start : Nat) (targets : List ProbeTarget) : Sweep :=
  (batches batchSize targets).foldl (probeBatch reach) { finished := start }

/-- Probe the peers of one family and record what came of it. -/
def probeFamily (batchSize start : Nat) (family : Family) (isRelay : Bool) (cache : DeviceCache) :
    Sweep × DeviceCache :=
  if isRelay then ({ finished := start }, cache)
  else
    let sweep := probeAll reach batchSize start (cache.probeTargets family)
    (sweep, cache.recordHealth sweep.results)

/-- The IPv4 results, with the IPv6 ones in place of those that did not answer. -/
def mergeFamilies (v4 v6 : Table PublicKey Health) : Table PublicKey Health :=
  v6.entries.foldl (fun results (key, health) =>
    match results.get? key with
    | some earlier => if earlier.reachable then results else results.insert key health
    | none => results.insert key health) v4

/-- The probes of one cycle: first all of IPv4, then all of IPv6. -/
def sweepCycle (batchSize start : Nat) (cache : DeviceCache) : Sweep :=
  let v4 := probeAll reach batchSize start (cache.probeTargets .v4)
  let v6 := probeAll reach batchSize v4.finished (cache.probeTargets .v6)
  { results := mergeFamilies v4.results v6.results
    calls := v4.calls ++ v6.calls
    finished := v6.finished }

/-- One periodic cycle over both families. -/
def probeCycle (batchSize start : Nat) (isRelay : Bool) (cache : DeviceCache) :
    Sweep × DeviceCache :=
  if isRelay then ({ finished := start }, cache)
  else
    let sweep := sweepCycle reach batchSize start cache
    (sweep, cache.recordHealth sweep.results)

/-- What a run of the prober leaves: its calls and the cache, and when it was stopped. -/
structure RunOutcome where
  calls : List ProbeCall
  cache : DeviceCache
  stopped : Option Nat

/-- Run cycles until the stop. A cycle that the stop cuts off has made the calls before it and
records nothing. `relayFrom` tells from which time on the local node is a relay. -/
def runFrom (batchSize : Nat) (relayFrom : Option Nat) (stop : Option Nat) :
    (fuel : Nat) → Ticker → (now : Nat) → List ProbeCall → DeviceCache → RunOutcome
  | 0, _, _, calls, cache => ⟨calls, cache, none⟩
  | fuel + 1, ticker, now, calls, cache =>
    let taken := ticker.fires now
    if Shutdown.stopsBefore stop taken then ⟨calls, cache, stop⟩
    else
      let isRelay := match relayFrom with
        | some time => time ≤ taken
        | none => false
      let (sweep, probed) := probeCycle reach batchSize taken isRelay cache
      if Shutdown.stopsBefore stop sweep.finished then
        ⟨calls ++ sweep.calls.filter fun call => !Shutdown.stopsBefore stop call.time, cache, stop⟩
      else
        runFrom batchSize relayFrom stop fuel (ticker.advance taken) sweep.finished
          (calls ++ sweep.calls) probed

/-- Run cycles once per period until the stop. Every cycle takes one more period, so the time of
the stop bounds their number. -/
def run (batchSize period : Nat) (relayFrom : Option Nat) (stop : Option Nat)
    (cache : DeviceCache) : RunOutcome :=
  runFrom reach batchSize relayFrom stop (stop.getD 0 + 2) (Ticker.start period) 0 [] cache

end Prober

end MeshNode
