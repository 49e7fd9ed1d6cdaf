/-!
# Periodic timers

Time is counted in milliseconds from the start of a loop. A ticker fires first at the
start and then once per period. A tick that is taken more than five milliseconds late
shifts those after it: the next one is due one period after the late one. A tick that
is taken earlier keeps the rhythm.
-/

namespace MeshNode

/-- A periodic timer: when it is due next, and its period. -/
structure Ticker where
  due : Nat
  period : Nat
  deriving DecidableEq, Repr

namespace Ticker

/-- A ticker that is due at the start. -/
def start (period : Nat) : Ticker := ⟨0, period⟩

/-- How late a tick may be taken without shifting the next one. -/
def tolerance : Nat := 5

/-- When the next tick is taken by a loop that waits for it from `now` on. -/
def fires (ticker : Ticker) (now : Nat) : Nat := max ticker.due now

/-- The ticker after its tick was taken at a given time. -/
def advance (ticker : Ticker) (taken : Nat) : Ticker :=
  { ticker with
    due :=
      if ticker.due + tolerance < taken then taken + ticker.period else ticker.due + ticker.period }

end Ticker

end MeshNode
