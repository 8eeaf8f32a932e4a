import ImageConfig.Proofs.ArrayText
import ImageConfig.Proofs.FirstFault
import ImageConfig.Proofs.Merging
import ImageConfig.ConfigFile.Reflection

/-!
# Collecting classes

A list of entries is collected by merging them one after the other into the empty collection. It may
be cut anywhere: the collection of the whole list is that of its front with that of its end merged
in (`ofList_append`). On the one side an entry of the end meets whatever the front has left under
its name. On the other side it first meets the entries of its name in the end, and what has become
of them meets the front as one entry, or is taken over as it is where the front has none.

A configuration file is a list of entries that are read in order, so it may be cut as well
(`reader_append`), and the fault of the front is reported before that of the end.
-/

namespace ImageConfig

open Json

namespace Reflection

/-! ## Lists -/

/-- The collection of two lists, one after the other, is that of the first one with that of the
second one merged in. -/
theorem ofList_append (first second : List ClassEntry) :
    ofList (first ++ second) = (ofList first).merge (ofList second) := by
  have apart : (ofList first).mergeAll (mergeAll ∅ second).entries =
      ((ofList first).mergeAll (∅ : Reflection).entries).mergeAll second :=
    mergeAll_entries_mergeAll (ofList first) ∅ second
  calc
    ofList (first ++ second) = (ofList first).mergeAll second := mergeAll_append ∅ first second
    _ = (ofList first).mergeAll (ofList second).entries := apart.symm

/-- The collection of the entries of a collection is that collection, in the same order. -/
theorem ofList_entries (reflection : Reflection) : ofList reflection.entries = reflection :=
  reflection.empty_merge

/-- A list of entries is the list of the collection made of it exactly if no name comes twice. -/
theorem entries_ofList_iff (entries : List ClassEntry) :
    (ofList entries).entries = entries ↔ (entries.map ClassEntry.name).Nodup := by
  constructor
  · intro same
    have distinct := (ofList entries).nodup
    rwa [same] at distinct
  · exact entries_ofList

/-! ## Files -/

/-- Reads two collections and merges the second one into the first one. -/
def readInParts (first second : String) : Except Fault Reflection := do
  let before ← reader.readText first
  let after ← reader.readText second
  return before.merge after

/-- An array of classes is read as its front and its end are, one after the other. -/
theorem reader_append (levels : Nat) (first second : List Tree) :
    reader levels (.ofList (first ++ second)) = do
      let before ← reader levels (.ofList first)
      let after ← reader levels (.ofList second)
      return before.merge after := by
  cases levels with
  | zero => rfl
  | succ levels =>
    have collected (trees : List Tree) : reader (levels + 1) (.ofList trees) =
        (trees.mapM (ClassEntry.reader levels) >>= fun entries => pure (ofList entries)) := by
      rw [← readItems_eq_mapM]
      rfl
    rw [collected, collected, collected, List.mapM_append]
    cases first.mapM (ClassEntry.reader levels) with
    | error fault => rfl
    | ok front =>
      cases second.mapM (ClassEntry.reader levels) with
      | error fault => rfl
      | ok rest => exact congrArg Except.ok (ofList_append front rest)

/-- A text of classes is read as texts of its front and its end are, one after the other. -/
theorem readText_append {text first second : String} {front rest : List Tree}
    (whole : Document.ofText text = ⟨.ofList (front ++ rest), true⟩)
    (before : Document.ofText first = ⟨.ofList front, true⟩)
    (after : Document.ofText second = ⟨.ofList rest, true⟩) :
    reader.readText text = readInParts first second := by
  unfold readInParts
  rw [reader.readText_of_document whole, reader.readText_of_document before,
    reader.readText_of_document after]
  exact reader_append nestingLimit front rest

/-- **Collecting preserves concatenation.** The collection of two lists of entries, one after the
other, is that of the first one with that of the second one merged in, with classes, flags, methods
and fields in the same order. So a text of classes is read, or not read, as two texts are that have
the same items between them: any such texts, and those that are put together from the texts of the
items. The entries of a collection make that collection again, and a list of entries is what its
collection lists exactly if no name comes twice. -/
theorem ofList_preserves_append :
    (∀ first second : List ClassEntry,
      ofList (first ++ second) = (ofList first).merge (ofList second)) ∧
    (∀ (text first second : String) (front rest : List Tree),
      Document.ofText text = ⟨.ofList (front ++ rest), true⟩ →
      Document.ofText first = ⟨.ofList front, true⟩ →
      Document.ofText second = ⟨.ofList rest, true⟩ →
      reader.readText text = readInParts first second) ∧
    (∀ front rest : List String,
      (∀ item ∈ front ++ rest, (Document.ofText item).isComplete = true) →
      reader.readText (arrayText (front ++ rest)) =
        readInParts (arrayText front) (arrayText rest)) ∧
    (∀ reflection : Reflection, ofList reflection.entries = reflection) ∧
    ∀ entries : List ClassEntry,
      (ofList entries).entries = entries ↔ (entries.map ClassEntry.name).Nodup := by
  refine ⟨ofList_append, fun _ _ _ _ _ => readText_append, fun front rest whole => ?cut,
    ofList_entries, entries_ofList_iff⟩
  case cut =>
    obtain ⟨before, after⟩ := List.forall_mem_append.mp whole
    have joined := Document.ofText_arrayText whole
    rw [List.map_append] at joined
    exact readText_append joined (Document.ofText_arrayText before)
      (Document.ofText_arrayText after)

/-- A service that comes in both parts, with a repeated method in the first one, and a plugin with
blanks around it between the two. -/
theorem services_preserve_append :
    let front := ["\x7b\"name\":\"app.Service\",\"methods\":[[\"run\"],[\"run\"]]\x7d"]
    let rest := [" \x7b\"name\":\"app.Plugin\"\x7d ",
      "\x7b\"name\":\"app.Service\",\"allPublicFields\":true," ++
        "\"methods\":[[\"stop\"],[\"run\"]]\x7d"]
    (∀ item ∈ front ++ rest, (Document.ofText item).isComplete = true) ∧
    (reader.readText (arrayText (front ++ rest))).toOption =
      some (.ofList
        [{ name := "app.Service",
           methods := [{ name := "run" }, { name := "run" }, { name := "stop" }],
           flags := .ofList [.allPublicFields] }, { name := "app.Plugin" }]) := by
  intro front rest
  have whole : ∀ item ∈ front ++ rest, (Document.ofText item).isComplete = true := by
    decide +kernel
  refine ⟨whole, ?_⟩
  rw [ofList_preserves_append.2.2.1 front rest whole]
  decide +kernel

end Reflection

end ImageConfig
