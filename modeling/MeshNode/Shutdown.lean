/-!
# Shutdown requests

A channel carries truth values from whoever stops the program to the loops that run.
A loop stops at the first true value, and also when the sender is gone; a false value
only wakes it up. Work that is under way when the stop comes is dropped.
-/

namespace MeshNode.Shutdown

/-- What happens on the channel at some time: a value is sent, or the sender goes. -/
structure Event where
  time : Nat
  /-- Absent where the sender is dropped. -/
  value : Option Bool
  deriving DecidableEq, Repr

/-- Whether a waiting loop takes an event as the request to stop. -/
def Event.stops (event : Event) : Bool := event.value.getD true

/-- When a loop that waits from the start on is told to stop. -/
def stopTime? (events : List Event) : Option Nat := (events.find? Event.stops).map Event.time

/-- Whether a stop comes before a given time. -/
def stopsBefore (stop : Option Nat) (time : Nat) : Bool :=
  match stop with
  | some stop => stop < time
  | none => false

/-- The first event that a waiting receiver sees, as its time and whether it asks to stop. -/
def firstRequest? (events : List Event) : Option (Nat × Bool) :=
  events.head?.map fun event => (event.time, event.stops)

/-- How work ends: done, or dropped by a stop. -/
inductive Ending where
  | done
  | stopped
  deriving DecidableEq, Repr

/-- Let work of a given duration run until a stop. Work does not begin where the channel already
holds a true value. -/
def untilStopped (already : Bool) (duration : Nat) (events : List Event) : Ending × Nat :=
  if already then (.stopped, 0)
  else match stopTime? events with
    | some stop => if stop < duration then (.stopped, stop) else (.done, duration)
    | none => (.done, duration)

end MeshNode.Shutdown
