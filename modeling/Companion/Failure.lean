import Companion.Diagnostic
import Companion.Template.Basic

/-!
# Failure — how a pass can end early

A candidate that cannot be served is not a failure: it is reported, and the others are served.  A
failure ends the pass of one contract.  Some failures come from the pass itself, others from the
sink that it publishes to; a sink may fail in any of these ways.
-/

namespace Companion

/-- Why a pass ended early. -/
inductive Failure where
  /-- A variant that is needed has no template; the reports gathered before are kept. -/
  | missingTemplate (diagnostic : Diagnostic) (faults : List Diagnostic)
  /-- Two units have this identity. -/
  | collision (identity : String)
  /-- The host asked to stop. -/
  | cancelled
  /-- The sink refused the unit of this identity, for the reason given. -/
  | refused (identity reason : String)
  /-- The sink could not write, for the reason given. -/
  | io (reason : String)
  /-- A template cannot be used. -/
  | template (fault : TemplateFault)
  /-- A snapshot cannot be used, for the reason given. -/
  | invalidSnapshot (reason : String)
  deriving DecidableEq, Repr

namespace Failure

/-- The failure in words. -/
def message : Failure → String
  | .missingTemplate d _ => "Configuration fault: " ++ d.message
  | .collision identity => "Identity collision: " ++ identity
  | .cancelled => "Synthesis pass cancelled"
  | .refused identity reason => "Publish failed for " ++ identity ++ ": " ++ reason
  | .io reason => "IO error: " ++ reason
  | .template fault => "Template error: " ++ fault.message
  | .invalidSnapshot reason => "Invalid compilation snapshot: " ++ reason

/-- The reports about candidates that the failure carries. -/
def faults : Failure → List Diagnostic
  | .missingTemplate _ faults => faults
  | _ => []

end Failure

end Companion
