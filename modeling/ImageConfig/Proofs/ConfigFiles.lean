import ImageConfig.ConfigFile.Proxies
import ImageConfig.ConfigFile.Resources
import ImageConfig.ConfigFile.Timing
import ImageConfig.Proofs.CompactText
import ImageConfig.Proofs.Merging

/-!
# Resource, proxy and initialization files read back

Each of these files that was written is read as the value it was written from
(`readText_compact_files`). What is written under a key is read into the slot of that key, so no
list ends up in the place of another one, however much the four lists of an initialization file look
alike. Sets come back in their order because a set that is collected from its own members, in order,
is that set. Proxies are not collected, so their repeats come back too.
-/

namespace ImageConfig

open Json

/-! ## Resources -/

namespace Resources

/-- An object that holds one string is read as that string. -/
theorem reader_singleton (name key : String) (levels : Nat) (string : String) :
    (singleton name key).reader (levels + 1) (.ofMembers [(key, .ofString string)]) =
      .ok string := by
  let slot : Slot (Option String) := .of key id (fun _ value => some value) readString
  have known : (singleton name key).slots.find? (fun slot => slot.key == key) = some slot := by
    show [slot].find? (fun slot => slot.key == key) = some slot
    exact List.find?_cons_of_pos (beq_self_eq_true key)
  have read : slot.read levels none (.ofString string) = .ok (some string) := rfl
  have members : readMembers (singleton name key).slots skipUnknown levels none
      (.ofList [(key, .ofString string)]) = .ok (some string) :=
    readMembers_known known rfl read
  exact Shape.reader_object members rfl

/-- Resources are read back. -/
theorem reader_toTree (levels : Nat) (resources : Resources) :
    shape.reader (levels + 3) resources.toTree = .ok resources := by
  obtain ⟨patterns, bundles⟩ := resources
  have readPatterns : readArray .sequence patternShape.reader (levels + 2)
      (.ofList (patterns.toList.map fun pattern => .ofMembers [("pattern", .ofString pattern)])) =
        .ok patterns.toList :=
    readArray_ofList (reader_singleton "PatternEntry" "pattern" levels) .sequence patterns.toList
  have readBundles : readArray .sequence bundleShape.reader (levels + 2)
      (.ofList (bundles.toList.map fun name => .ofMembers [("name", .ofString name)])) =
        .ok bundles.toList :=
    readArray_ofList (reader_singleton "BundleEntry" "name" levels) .sequence bundles.toList
  let draft : Draft := { patterns := some patterns.toList, bundles := some bundles.toList }
  have finished : shape.finish draft = some ⟨patterns, bundles⟩ := by
    show some (Resources.mk (.ofList patterns.toList) (.ofList bundles.toList)) = _
    rw [patterns.ofList_toList, bundles.ofList_toList]
  refine Shape.reader_object ?_ finished
  rw [Members.ofList, readMembers_known rfl rfl (Slot.read_of readPatterns _), Members.ofList,
    readMembers_known rfl rfl (Slot.read_of readBundles _)]
  rfl

/-- Resources are plain. -/
theorem isPlain_toTree (resources : Resources) : resources.toTree.isPlain = true := by
  have single (key string : String) :
      (Tree.ofMembers [(key, .ofString string)]).isPlain = true := rfl
  refine Members.isPlain_ofList fun member among => ?_
  cases List.mem_cons.mp among with
  | inl first =>
    rw [first]
    exact Tree.isPlain_ofList (single "pattern") resources.patterns.toList
  | inr second =>
    obtain rfl := List.mem_singleton.mp second
    exact Tree.isPlain_ofList (single "name") resources.bundles.toList

end Resources

/-! ## Proxies -/

namespace Proxies

/-- Proxies are read back, repeats included. -/
theorem reader_toTree (levels : Nat) (proxies : Proxies) :
    reader (levels + 2) proxies.toTree = .ok proxies := by
  have lists : readArray .sequence readProxy (levels + 2) proxies.toTree = .ok proxies.toList :=
    readArray_ofList (readStrings_ofStrings .sequence levels) .sequence proxies.toList
  rw [reader, lists]
  rfl

/-- Proxies are plain. -/
theorem isPlain_toTree (proxies : Proxies) : proxies.toTree.isPlain = true :=
  Tree.isPlain_ofList Tree.isPlain_ofStrings proxies.toList

end Proxies

/-! ## Initialization -/

namespace Timing

/-- A timing is read back. -/
theorem reader_toTree (levels : Nat) (timing : Timing) :
    shape.reader (levels + 2) timing.toTree = .ok timing := by
  obtain ⟨buildTimeClasses, buildTimePackages, runTimeClasses, runTimePackages⟩ := timing
  have names (set : OrderedSet String) :
      readStrings .set (levels + 1) (.ofStrings set.toList) = .ok set.toList :=
    readStrings_ofStrings .set levels set.toList
  let draft : Draft :=
    { buildTimeClasses := some buildTimeClasses.toList
      buildTimePackages := some buildTimePackages.toList
      runTimeClasses := some runTimeClasses.toList
      runTimePackages := some runTimePackages.toList }
  have finished : shape.finish draft =
      some ⟨buildTimeClasses, buildTimePackages, runTimeClasses, runTimePackages⟩ := by
    show some (Timing.mk (.ofList buildTimeClasses.toList) (.ofList buildTimePackages.toList)
      (.ofList runTimeClasses.toList) (.ofList runTimePackages.toList)) = _
    simp only [OrderedSet.ofList_toList]
  refine Shape.reader_object ?_ finished
  rw [Members.ofList, readMembers_known rfl rfl (Slot.read_of (names buildTimeClasses) _),
    Members.ofList, readMembers_known rfl rfl (Slot.read_of (names buildTimePackages) _),
    Members.ofList, readMembers_known rfl rfl (Slot.read_of (names runTimeClasses) _),
    Members.ofList, readMembers_known rfl rfl (Slot.read_of (names runTimePackages) _)]
  rfl

/-- A timing is plain. -/
theorem isPlain_toTree (timing : Timing) : timing.toTree.isPlain = true := by
  refine Members.isPlain_ofList fun member among => ?_
  simp only [List.mem_cons, List.not_mem_nil, or_false] at among
  obtain rfl | rfl | rfl | rfl := among
  all_goals exact Tree.isPlain_ofStrings _

end Timing

/-- Resources, proxies and initialization timings that are written as compact texts are read back
from them as they were: every pattern, bundle, interface list and name, in the same order and in the
same place, proxies with their repeats. -/
theorem readText_compact_files :
    (∀ resources : Resources,
      Resources.shape.reader.readText resources.toTree.compact = .ok resources) ∧
    (∀ proxies : Proxies, Proxies.reader.readText proxies.toTree.compact = .ok proxies) ∧
    (∀ timing : Timing, Timing.shape.reader.readText timing.toTree.compact = .ok timing) := by
  refine ⟨fun resources => ?resources, fun proxies => ?proxies, fun timing => ?timing⟩
  case resources =>
    rw [Reader.readText_compact _ resources.isPlain_toTree]
    exact Resources.reader_toTree 124 resources
  case proxies =>
    rw [Reader.readText_compact _ proxies.isPlain_toTree]
    exact Proxies.reader_toTree 125 proxies
  case timing =>
    rw [Reader.readText_compact _ timing.isPlain_toTree]
    exact Timing.reader_toTree 125 timing

end ImageConfig
