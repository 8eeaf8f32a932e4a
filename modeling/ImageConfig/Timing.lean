import ImageConfig.OrderedSet

/-!
# Initialization timing

Static initialization of a class, or of all classes of a package, is requested either while the
image is built or when it runs. The four sets are kept apart: a name may be requested for both
phases, which `conflicts` reports and nothing prevents.
-/

namespace ImageConfig

/-- When static initialization happens. -/
inductive Phase where
  | buildTime
  | runTime
deriving DecidableEq

namespace Phase

/-- The phase as diagnostics name it. -/
def name : Phase → String
  | buildTime => "build_time"
  | runTime => "run_time"

/-- The other phase. -/
def opposite : Phase → Phase
  | buildTime => runTime
  | runTime => buildTime

/-- Both phases, in the order in which they are written. -/
def all : List Phase := [buildTime, runTime]

end Phase

/-- What an initialization request names. -/
inductive Target where
  | classes
  | packages
deriving DecidableEq

namespace Target

/-- The kind of target as diagnostics name it. -/
def name : Target → String
  | classes => "class"
  | packages => "package"

/-- Both kinds of target, in the order in which they are written. -/
def all : List Target := [classes, packages]

end Target

/-- The names requested for each phase and kind of target. -/
structure Timing where
  /-- Classes initialized while the image is built. -/
  buildTimeClasses : OrderedSet String := ∅
  /-- Packages initialized while the image is built. -/
  buildTimePackages : OrderedSet String := ∅
  /-- Classes initialized when the image runs. -/
  runTimeClasses : OrderedSet String := ∅
  /-- Packages initialized when the image runs. -/
  runTimePackages : OrderedSet String := ∅
deriving DecidableEq

namespace Timing

instance : EmptyCollection Timing := ⟨{}⟩

instance : Inhabited Timing := ⟨∅⟩

/-- The names requested for one phase and kind of target. -/
def names (timing : Timing) : Phase → Target → OrderedSet String
  | .buildTime, .classes => timing.buildTimeClasses
  | .buildTime, .packages => timing.buildTimePackages
  | .runTime, .classes => timing.runTimeClasses
  | .runTime, .packages => timing.runTimePackages

/-- The timing with `name` requested for one phase and kind of target. -/
def add (timing : Timing) (phase : Phase) (target : Target) (name : String) : Timing :=
  match phase, target with
  | .buildTime, .classes => { timing with buildTimeClasses := timing.buildTimeClasses.insert name }
  | .buildTime, .packages =>
    { timing with buildTimePackages := timing.buildTimePackages.insert name }
  | .runTime, .classes => { timing with runTimeClasses := timing.runTimeClasses.insert name }
  | .runTime, .packages => { timing with runTimePackages := timing.runTimePackages.insert name }

/-- The timing with all of `names` requested in order. -/
def addAll (timing : Timing) (phase : Phase) (target : Target) (names : List String) : Timing :=
  names.foldl (fun timing name => timing.add phase target name) timing

/-- Whether `name` is already requested for the other phase. -/
def conflicts (timing : Timing) (phase : Phase) (target : Target) (name : String) : Bool :=
  (timing.names phase.opposite target).contains name

/-- All that is requested for a phase, classes before packages. -/
def entries (timing : Timing) (phase : Phase) : List String :=
  (timing.names phase .classes).toList ++ (timing.names phase .packages).toList

/-- Whether anything is requested for a phase. -/
def hasEntries (timing : Timing) (phase : Phase) : Bool :=
  !(timing.names phase .classes).isEmpty || !(timing.names phase .packages).isEmpty

/-- Whether nothing is requested at all. -/
def isEmpty (timing : Timing) : Bool :=
  !timing.hasEntries .buildTime && !timing.hasEntries .runTime

/-- Whether two timings request the same names, in whatever order. -/
def sameRequests (left right : Timing) : Bool :=
  Phase.all.all fun phase => Target.all.all fun target =>
    (left.names phase target).sameMembers (right.names phase target)

/-- Adding a name inserts it into the set of its phase and target and touches no other set. -/
theorem names_add (timing : Timing) (phase otherPhase : Phase) (target otherTarget : Target)
    (name : String) :
    (timing.add phase target name).names otherPhase otherTarget =
      if phase = otherPhase ∧ target = otherTarget then (timing.names phase target).insert name
      else timing.names otherPhase otherTarget := by
  cases phase <;> cases target <;> cases otherPhase <;> cases otherTarget <;> rfl

/-- A phase has entries exactly if its list of entries is not empty. -/
theorem hasEntries_iff (timing : Timing) (phase : Phase) :
    timing.hasEntries phase = true ↔ timing.entries phase ≠ [] := by
  simp only [hasEntries, entries, OrderedSet.isEmpty, ne_eq, List.append_eq_nil_iff,
    Bool.or_eq_true, Bool.not_eq_true', List.isEmpty_eq_false_iff]
  constructor
  · rintro (left | right) ⟨one, two⟩
    · exact left one
    · exact right two
  · intro notBoth
    by_cases one : (timing.names phase .classes).toList = []
    · exact Or.inr fun two => notBoth ⟨one, two⟩
    · exact Or.inl one

end Timing

end ImageConfig
