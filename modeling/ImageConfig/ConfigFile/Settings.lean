import ImageConfig.Session
import ImageConfig.Json.Reader

/-!
# Settings in configuration files

Settings are read from an object; a setting that is left out is off.
-/

namespace ImageConfig.Settings

open Json

/-- The shape of settings. -/
def shape : Shape (Option Bool) Settings where
  name := "AotOptions"
  slots := [.of "debugVerify" id (fun _ wished => some wished) readBool]
  start := none
  finish wished := some { debugVerify := wished.getD false }

end ImageConfig.Settings
