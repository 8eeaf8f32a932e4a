import ImageConfig.OrderedMap
import ImageConfig.Reflection
import ImageConfig.Resources
import ImageConfig.Proxies
import ImageConfig.Timing

/-!
# Configurations

A configuration is all that has been collected for one build. It changes in one way only: by
storing a notification, the record of one registration in the form in which it counts. The same
records are sent to a build engine that follows the session, so an engine that replays what it is
sent keeps a configuration of its own.
-/

namespace ImageConfig

/-- A record of one registration. -/
inductive Notification where
  /-- One class entry. -/
  | addClass (entry : ClassEntry)
  /-- A collection of class entries. -/
  | addReflection (bulk : Reflection)
  /-- The interfaces of one dynamic proxy. -/
  | addProxy (interfaces : Proxy)
  /-- Resource patterns and bundles. -/
  | addResources (resources : Resources)
  /-- One resource pattern, or the name of one bundle. -/
  | addResource (pattern : String) (isBundle : Bool)
  /-- A generated resource with its content. -/
  | registerResource (name : String) (content : List UInt8)
  /-- Names to be initialized in one phase. -/
  | initializeAt (phase : Phase) (target : Target) (names : List String)
deriving DecidableEq

namespace Notification

/-- The name of the kind of registration in diagnostics. -/
def operation : Notification → String
  | addClass _ => "add_class_descriptor"
  | addReflection _ => "add_reflection_descriptor"
  | addProxy _ => "add_proxy"
  | addResources _ => "add_resources_descriptor"
  | addResource _ _ => "add_resource"
  | registerResource _ _ => "register_resource"
  | initializeAt .buildTime .classes _ => "initialize_at_build_time"
  | initializeAt .runTime .classes _ => "initialize_at_run_time"
  | initializeAt .buildTime .packages _ => "initialize_packages_at_build_time"
  | initializeAt .runTime .packages _ => "initialize_packages_at_run_time"

/-- The notification as seen by one who reads only the first `count` bytes of a content. -/
def readTo (count : Nat) : Notification → Notification
  | registerResource name content => registerResource name (content.take count)
  | other => other

end Notification

/-- All that has been collected. -/
structure Configuration where
  /-- Classes and what of them stays reachable by reflection. -/
  reflection : Reflection := ∅
  /-- Requested resources. -/
  resources : Resources := ∅
  /-- Dynamic proxies. -/
  proxies : Proxies := ∅
  /-- Initialization timing. -/
  timing : Timing := ∅
  /-- Generated resources with their contents, first registered first. -/
  files : OrderedMap String (List UInt8) := ∅
deriving DecidableEq

namespace Configuration

instance : EmptyCollection Configuration := ⟨{}⟩

instance : Inhabited Configuration := ⟨∅⟩

/-- Whether two configurations hold the same, where order counts only in lists: members of a
class, parameter types, proxies and their interfaces. -/
def sameContent (left right : Configuration) : Bool :=
  left.reflection.sameRequests right.reflection && left.resources.sameRequests right.resources &&
    left.proxies == right.proxies && left.timing.sameRequests right.timing &&
    left.files.sameEntries right.files

end Configuration

end ImageConfig
