/-!
# Version

The version of this library, as it appears in its output.
-/

namespace ImageConfig

/-- The version of this library. -/
def version : String := "0.1.0"

end ImageConfig
