import MeshNode.Clock
import MeshNode.Probe
import MeshNode.Shutdown

/-!
# The reconciliation loop

Ticks once per period until the stop. A fetch takes its time, and a stop that comes while a
fetch is under way drops the tick. Only an unauthorized listing ends the loop with an error.
-/

namespace MeshNode.Reconciler

/-- What a fetch comes to: a listing or an error after some milliseconds, or no answer ever. -/
inductive Fetch where
  | answers (delay : Nat) (listing : Except ListingError (List PeerRecord))
  | stalls

/-- How a loop ended. -/
inductive LoopEnding where
  | stopped
  | failed (error : EngineError)
  /-- Nothing ever ends the loop. -/
  | endless
  deriving DecidableEq, Repr

/-- What a loop leaves behind. -/
structure LoopOutcome (World : Type) where
  ending : LoopEnding
  time : Nat
  fetches : List Nat
  node : Node World

/-- The fetch of a tick: the scripted ones in order, and the last one again and again. -/
def nextFetch : List Fetch → Fetch × List Fetch
  | [] => (.stalls, [])
  | [last] => (last, [last])
  | fetch :: rest => (fetch, rest)

variable {World : Type} (driver : Driver World)

/-- Wait for the stop. -/
def awaitStop (stop : Option Nat) (now : Nat) (fetches : List Nat) (node : Node World) :
    LoopOutcome World :=
  match stop with
  | some time => ⟨.stopped, time, fetches, node⟩
  | none => ⟨.endless, now, fetches, node⟩

/-- The loop from a time on. -/
def loopFrom (stop : Option Nat) :
    (fuel : Nat) → Ticker → (now : Nat) → List Fetch → List Nat → Node World → LoopOutcome World
  | 0, _, now, _, fetches, node => ⟨.endless, now, fetches, node⟩
  | fuel + 1, ticker, now, script, fetches, node =>
    let taken := ticker.fires now
    if Shutdown.stopsBefore stop taken then awaitStop stop taken fetches node
    else
      let fetches := fetches ++ [taken]
      match nextFetch script with
      | (.stalls, _) => awaitStop stop taken fetches node
      | (.answers delay listing, script) =>
        let answered := taken + delay
        if Shutdown.stopsBefore stop answered then awaitStop stop answered fetches node
        else
          match node.tick driver listing with
          | (.error error, node) => ⟨.failed (.listing error), answered, fetches, node⟩
          | (.ok _, node) => loopFrom stop fuel (ticker.advance taken) answered script fetches node

/-- The loop from the start. Every tick takes one more period, so the time of the stop and the
length of the script bound their number. -/
def loop (period : Nat) (script : List Fetch) (stop : Option Nat) (node : Node World) :
    LoopOutcome World :=
  loopFrom driver stop (stop.getD 0 + script.length + 2) (Ticker.start period) 0 script [] node

end MeshNode.Reconciler
