/-!
# Secrets

A text that may be used but not shown. Only `expose` returns it; every text made
for a reader shows a placeholder in its place, whatever the secret is.
-/

namespace MeshNode

/-- A text that is never printed. -/
structure Secret where
  expose : String
  deriving DecidableEq

namespace Secret

/-- What stands for a secret. -/
def display (_ : Secret) : String := "[REDACTED]"

/-- The text for diagnostics. -/
def debugText (secret : Secret) : String := s!"SecretString(\"{secret.display}\")"

/-- An empty secret counts as none. -/
def isEmpty (secret : Secret) : Bool := secret.expose.isEmpty

end Secret

end MeshNode
