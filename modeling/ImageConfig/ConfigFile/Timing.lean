import ImageConfig.Timing
import ImageConfig.Json.Reader
import ImageConfig.Json.Compact

/-!
# Initialization configuration files

An initialization file lists names under four keys, one for each phase and kind of target. A key
that is left out lists nothing. Repeats in a list count once.
-/

namespace ImageConfig.Timing

open Json

/-- The timing as a value. -/
def toTree (timing : Timing) : Tree :=
  .ofMembers
    [("buildtimeClasses", .ofStrings timing.buildTimeClasses.toList),
      ("buildtimePackages", .ofStrings timing.buildTimePackages.toList),
      ("runtimeClasses", .ofStrings timing.runTimeClasses.toList),
      ("runtimePackages", .ofStrings timing.runTimePackages.toList)]

/-- A timing as far as it is read. -/
structure Draft where
  /-- Classes initialized while the image is built. -/
  buildTimeClasses : Option (List String) := none
  /-- Packages initialized while the image is built. -/
  buildTimePackages : Option (List String) := none
  /-- Classes initialized when the image runs. -/
  runTimeClasses : Option (List String) := none
  /-- Packages initialized when the image runs. -/
  runTimePackages : Option (List String) := none

/-- The shape of an initialization file. -/
def shape : Shape Draft Timing where
  name := "InitializationDescriptor"
  slots :=
    [.of "buildtimeClasses" Draft.buildTimeClasses
        (fun draft names => { draft with buildTimeClasses := some names }) (readStrings .set),
      .of "buildtimePackages" Draft.buildTimePackages
        (fun draft names => { draft with buildTimePackages := some names }) (readStrings .set),
      .of "runtimeClasses" Draft.runTimeClasses
        (fun draft names => { draft with runTimeClasses := some names }) (readStrings .set),
      .of "runtimePackages" Draft.runTimePackages
        (fun draft names => { draft with runTimePackages := some names }) (readStrings .set)]
  start := {}
  finish draft :=
    some
      { buildTimeClasses := .ofList (draft.buildTimeClasses.getD [])
        buildTimePackages := .ofList (draft.buildTimePackages.getD [])
        runTimeClasses := .ofList (draft.runTimeClasses.getD [])
        runTimePackages := .ofList (draft.runTimePackages.getD []) }

end ImageConfig.Timing
