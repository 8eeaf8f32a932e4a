import ImageConfig.Proxies
import ImageConfig.Json.Reader
import ImageConfig.Json.Compact

/-!
# Proxy configuration files

A proxy file is an array of interface lists. Repeats in a file are kept.
-/

namespace ImageConfig

open Json

/-- Reads the interfaces of one proxy. -/
def readProxy : Reader Proxy := readStrings .sequence

namespace Proxies

/-- The proxies as a value. -/
def toTree (proxies : Proxies) : Tree := .ofList (proxies.toList.map .ofStrings)

/-- Reads proxies as they are listed. -/
def reader : Reader Proxies := fun levels tree => do
  let proxies ← readArray .sequence readProxy levels tree
  return ⟨proxies⟩

end Proxies

end ImageConfig
