/-!
# Levels of severity

Diagnostics are written at one of five levels. A log keeps the diagnostics at its own level and at
all levels more severe.
-/

namespace ImageConfig

/-- Severity of a diagnostic, the most verbose level first. -/
inductive Level where
  | trace
  | debug
  | info
  | warn
  | error
deriving DecidableEq

namespace Level

/-- The name of the level in requests and reports. -/
def name : Level → String
  | trace => "trace"
  | debug => "debug"
  | info => "info"
  | warn => "warn"
  | error => "error"

/-- The heading of the level in a log file. -/
def heading : Level → String
  | trace => "TRACE"
  | debug => "DEBUG"
  | info => "INFO"
  | warn => "WARN"
  | error => "ERROR"

/-- How severe the level is. -/
def severity : Level → Nat
  | trace => 0
  | debug => 1
  | info => 2
  | warn => 3
  | error => 4

/-- The level of the given name in small letters; `warning` is another name of `warn`. -/
def ofName? : String → Option Level
  | "trace" => some .trace
  | "debug" => some .debug
  | "info" => some .info
  | "warn" => some .warn
  | "warning" => some .warn
  | "error" => some .error
  | _ => none

/-- The level of a log for which no other one is wished. -/
def standard : Level := debug

/-- Whether a log at `level` keeps a diagnostic at `other`. -/
def keeps (level other : Level) : Bool := decide (level.severity ≤ other.severity)

/-- The name of a level names it. -/
@[simp]
theorem ofName?_name (level : Level) : ofName? level.name = some level := by cases level <;> rfl

end Level

end ImageConfig
