import ImageConfig.Event

/-!
# Storing

What counts of a registration is stored by the operation of the collection that it is about. Only a
request for initialization reports anything meanwhile. Its names are taken one after the other: each
is looked up in the other phase, reported if it is held there by then, and added all the same.
-/

namespace ImageConfig

/-- Requests names for a phase, one after the other. A name that the other phase holds when its turn
comes is reported, and it is added all the same. -/
def Timing.request (phase : Phase) (target : Target) : List String → Traced Timing Unit
  | [] => return
  | name :: rest => do
    let held ← Traced.query fun timing => (timing.conflicts phase target name, timing)
    if held then Traced.emit (.logged (.phaseConflict phase target name))
    Traced.change fun timing => timing.add phase target name
    Timing.request phase target rest

namespace Configuration

/-- Stores a notification. A generated resource is requested by its name, and its content replaces
any earlier content under that name. -/
def store : Notification → Traced Configuration Unit
  | .addClass entry => Traced.change fun config =>
    { config with reflection := config.reflection.mergeEntry entry }
  | .addReflection bulk => Traced.change fun config =>
    { config with reflection := config.reflection.merge bulk }
  | .addProxy interfaces => Traced.change fun config =>
    { config with proxies := config.proxies.add interfaces }
  | .addResources resources => Traced.change fun config =>
    { config with resources := config.resources.merge resources }
  | .addResource name true => Traced.change fun config =>
    { config with resources := config.resources.addBundle name }
  | .addResource pattern false => Traced.change fun config =>
    { config with resources := config.resources.addPattern pattern }
  | .registerResource name content => Traced.change fun config =>
    { config with
      resources := config.resources.addPattern name
      files := config.files.insert name content }
  | .initializeAt phase target names => fun config =>
    let requested := (Timing.request phase target names).run config.timing
    ⟨(), requested.events, { config with timing := requested.after }⟩

/-- The configuration after one notification is stored. -/
def absorb (config : Configuration) (notification : Notification) : Configuration :=
  ((store notification).run config).after

/-- The configuration after a list of notifications is stored, in order. -/
def absorbAll (config : Configuration) (notifications : List Notification) : Configuration :=
  notifications.foldl absorb config

end Configuration

end ImageConfig
