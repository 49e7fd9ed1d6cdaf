import MeshNode.Reconciler

/-!
# Probe failures and the errors of the engine

Why a probe has no latency, and the one error type that a tunnel, a listing or a probe
failure becomes when the engine reports it.
-/

namespace MeshNode

/-- Why a peer could not be measured. -/
inductive ProbeError where
  | io (text : String)
  | timeout
  | noRoute (address : Address)
  | unsupported (reason : String)
  deriving DecidableEq, Repr

/-- The wording of a failed probe. -/
def ProbeError.message : ProbeError → String
  | .io text => s!"I/O error: {text}"
  | .timeout => "probe timed out"
  | .noRoute address => s!"no tunnel route to {address.print}"
  | .unsupported reason => s!"probe unsupported: {reason}"

/-- The userspace tunnel carries echoes of one family only. -/
def ProbeError.ipv4Only : ProbeError := .unsupported "userspace probing is IPv4 only"

/-- Any failure inside the engine. -/
inductive EngineError where
  | tunnel (error : TunnelError)
  | listing (error : ListingError)
  | probe (error : ProbeError)
  deriving DecidableEq, Repr

namespace EngineError

/-- The wording of an engine failure. -/
def message : EngineError → String
  | .tunnel error => s!"backend error: {error.message}"
  | .listing error => s!"peer source error: {error.message}"
  | .probe error => s!"probe error: {error.message}"

/-- Whether the session is no longer valid. -/
def isUnauthorized : EngineError → Bool
  | .listing (.unauthorized _) => true
  | _ => false

end EngineError

end MeshNode
