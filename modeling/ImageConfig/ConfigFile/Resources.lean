import ImageConfig.Resources
import ImageConfig.Json.Reader
import ImageConfig.Json.Compact

/-!
# Resource configuration files

A resource file lists patterns under `resources` and bundles under `bundles`, each in an object of
its own. Repeats in a file count once.
-/

namespace ImageConfig.Resources

open Json

/-- An object that holds one string under one required key. -/
def singleton (name key : String) : Shape (Option String) String where
  name
  slots := [.of key id (fun _ value => some value) readString]
  start := none
  finish := id

/-- The shape of a pattern. -/
def patternShape : Shape (Option String) String := singleton "PatternEntry" "pattern"

/-- The shape of a bundle. -/
def bundleShape : Shape (Option String) String := singleton "BundleEntry" "name"

/-- The resources as a value. -/
def toTree (resources : Resources) : Tree :=
  .ofMembers
    [("resources", .ofList (resources.patterns.toList.map fun pattern =>
        .ofMembers [("pattern", .ofString pattern)])),
      ("bundles", .ofList (resources.bundles.toList.map fun name =>
        .ofMembers [("name", .ofString name)]))]

/-- Resources as far as they are read. -/
structure Draft where
  /-- Patterns. -/
  patterns : Option (List String) := none
  /-- Bundles. -/
  bundles : Option (List String) := none

/-- The shape of a resource file. -/
def shape : Shape Draft Resources where
  name := "ResourcesConfig"
  slots :=
    [.of "resources" Draft.patterns (fun draft patterns => { draft with patterns := some patterns })
        (readArray .sequence patternShape.reader),
      .of "bundles" Draft.bundles (fun draft bundles => { draft with bundles := some bundles })
        (readArray .sequence bundleShape.reader)]
  start := {}
  finish draft :=
    some ⟨.ofList (draft.patterns.getD []), .ofList (draft.bundles.getD [])⟩

end ImageConfig.Resources
