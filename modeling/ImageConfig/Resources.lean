import ImageConfig.OrderedSet

/-!
# Resources

Resources of an image are requested by patterns for plain files and by names for bundles of
localized messages. The two sets are independent: one text may stand in both.
-/

namespace ImageConfig

/-- Requested resource patterns and resource bundles. -/
structure Resources where
  /-- Patterns for plain resources. -/
  patterns : OrderedSet String := ∅
  /-- Names of resource bundles. -/
  bundles : OrderedSet String := ∅
deriving DecidableEq

namespace Resources

instance : EmptyCollection Resources := ⟨{}⟩

instance : Inhabited Resources := ⟨∅⟩

/-- The resources with `pattern` requested. -/
def addPattern (resources : Resources) (pattern : String) : Resources :=
  { resources with patterns := resources.patterns.insert pattern }

/-- The resources with the bundle `name` requested. -/
def addBundle (resources : Resources) (name : String) : Resources :=
  { resources with bundles := resources.bundles.insert name }

/-- The resources with all of `other` requested besides. -/
def merge (resources other : Resources) : Resources where
  patterns := resources.patterns.union other.patterns
  bundles := resources.bundles.union other.bundles

/-- Whether nothing is requested. -/
def isEmpty (resources : Resources) : Bool :=
  resources.patterns.isEmpty && resources.bundles.isEmpty

/-- Whether two requests name the same patterns and bundles, in whatever order. -/
def sameRequests (left right : Resources) : Bool :=
  left.patterns.sameMembers right.patterns && left.bundles.sameMembers right.bundles

end Resources

end ImageConfig
