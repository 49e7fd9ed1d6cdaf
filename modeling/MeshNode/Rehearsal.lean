import MeshNode.Json.Fields

/-!
# Rehearsals

A rehearsal runs one part of a node against scripted surroundings: a tunnel that records
what it is told, peers that answer probes after a set time, reflectors and coordinators that
follow a script. A rehearsal is asked for with a JSON object, most often with a list of steps,
and answers what the part did at every step. A request that cannot be decoded has no answer.

Only the surroundings are made up. Every decision in an answer comes from the same definitions
that a node runs.
-/

namespace MeshNode.Rehearsal

/-- Take steps one after another over a state and collect their answers. -/
def runSteps {State : Type} (step : State → Json → Option (Json × State)) :
    State → List Json → Option (List Json)
  | _, [] => some []
  | state, request :: rest => do
    let (answer, state) ← step state request
    let answers ← runSteps step state rest
    return answer :: answers

/-- The steps of a request. -/
def stepsOf (request : Json) : Option (List Json) := request.listIn some "steps"

/-- The name of a step's action. -/
def actionOf (step : Json) : Option String := step.textOf "do"

end MeshNode.Rehearsal
