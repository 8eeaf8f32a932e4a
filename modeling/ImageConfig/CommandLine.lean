import ImageConfig.BuildArguments
import ImageConfig.Version

/-!
# Command line

The command prints the version and the properties of a build for which nothing was requested.
-/

namespace ImageConfig

/-- All that the command prints. -/
def commandOutput : String :=
  "nativeconf_core version=" ++ version ++ "\n" ++ BuildArguments.render ∅

end ImageConfig
