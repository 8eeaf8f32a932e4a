import ImageConfig.Accumulation

/-!
# Dynamic proxies

A dynamic proxy is a list of interface names whose order matters. A collection of proxies
accumulates by adding lists that are not there yet. A collection that was read from a
configuration file keeps the repeats of the file.
-/

namespace ImageConfig

/-- The interfaces of one dynamic proxy, in order. -/
abbrev Proxy := List String

/-- Dynamic proxies in the order in which they were added. -/
structure Proxies where
  /-- Interface lists, first added first. -/
  toList : List Proxy := []
deriving DecidableEq

namespace Proxies

instance : EmptyCollection Proxies := ⟨{}⟩

instance : Inhabited Proxies := ⟨∅⟩

/-- Whether there is a proxy over exactly these interfaces in this order. -/
def contains (proxies : Proxies) (proxy : Proxy) : Bool := decide (proxy ∈ proxies.toList)

/-- The proxies with `proxy` at the end if it is new. -/
def add (proxies : Proxies) (proxy : Proxy) : Proxies := ⟨appendNew proxies.toList proxy⟩

/-- The proxies with those of `other` added in order. -/
def merge (proxies other : Proxies) : Proxies := ⟨appendAllNew proxies.toList other.toList⟩

/-- How many proxies there are. -/
def size (proxies : Proxies) : Nat := proxies.toList.length

/-- Whether there is no proxy. -/
def isEmpty (proxies : Proxies) : Bool := proxies.toList.isEmpty

@[simp]
theorem toList_add (proxies : Proxies) (proxy : Proxy) :
    (proxies.add proxy).toList = appendNew proxies.toList proxy := rfl

@[simp]
theorem toList_merge (proxies other : Proxies) :
    (proxies.merge other).toList = appendAllNew proxies.toList other.toList := rfl

end Proxies

end ImageConfig
