/-!
# Failures of the build engine
-/

namespace ImageConfig

/-- Why a notification failed. -/
inductive EngineError where
  /-- The engine is not reachable any more. -/
  | disconnected
  /-- The engine refused the notification. -/
  | rejected (reason : String)
  /-- Transport failed underneath. -/
  | transport (cause : String)
deriving DecidableEq

namespace EngineError

/-- The error as diagnostics tell it. -/
def message : EngineError → String
  | disconnected => "build connector is disconnected"
  | rejected reason => "build connector rejected notification: " ++ reason
  | transport cause => "build connector i/o failure: " ++ cause

/-- The error underneath, where there is one. -/
def cause? : EngineError → Option String
  | transport cause => some cause
  | _ => none

end EngineError

end ImageConfig
