import Mathlib.Data.List.Nodup
import ImageConfig.ConfigFile.Reflection
import ImageConfig.Proofs.CompactText
import ImageConfig.Proofs.Contribution
import ImageConfig.Proofs.Merging

/-!
# Reflection files read back

A reflection file that was written is read as the collection it was written from. The flags of a
class are written among its other members and are read from what is left over of them, so they come
back because no flag has the key of a member (`find?_slots_key`) and no two flags share a key
(`Flag.key_injective`). What is left out in writing, empty lists and false settings, is what a
reader takes for granted. Reading merges classes of one name, and a collection holds no two of
them.
-/

namespace ImageConfig

open Json

/-! ## Flags -/

/-- No two flags share a key. -/
theorem Flag.key_injective : Function.Injective Flag.key := by
  intro left right same
  have found : some left = some right := by rw [← ofKey?_key left, same, ofKey?_key]
  exact Option.some.inj found

/-- What is written and then read value by value gives the values in order. -/
theorem mapM_map_ok {α β γ ε : Type} {write : α → β} {read : β → Except ε γ} (value : α → γ)
    (each : ∀ item, read (write item) = .ok (value item)) (items : List α) :
    (items.map write).mapM read = .ok (items.map value) := by
  have whole : read ∘ write = fun item => pure (value item) := funext each
  rw [List.mapM_map, whole, List.mapM_pure]
  rfl

/-- Entries that give every flag of a set the value true request that set, in the same order. -/
theorem flagsOfEntries_of_set (isOfClass : Bool) (flags : OrderedSet Flag) :
    flagsOfEntries isOfClass (flags.toList.map fun flag => (flag.key, true)) = .ok flags := by
  have distinct : ((flags.toList.map fun flag => (flag.key, true)).map Prod.fst).Nodup := by
    rw [List.map_map]
    exact flags.nodup.map Flag.key_injective
  have entries : (OrderedMap.ofList (flags.toList.map fun flag => (flag.key, true))).entries =
      flags.toList.map fun flag => (flag.key, true) := OrderedMap.entries_insertAll distinct
  have kept : ((flags.toList.map fun flag => (flag, true)).filter Prod.snd).map Prod.fst =
      flags.toList := by
    rw [List.filter_eq_self.mpr (by simp), List.map_map]
    exact List.map_id _
  rw [flagsOfEntries, entries, mapM_map_ok fun flag => (flag, true)]
  · change Except.ok (OrderedSet.ofList _) = _
    rw [kept, flags.ofList_toList]
  · intro flag
    simp only [Flag.ofKey?_key]

/-! ## Methods and fields -/

/-- A method is read back. -/
theorem Method.reader_toTree (levels : Nat) (method : Method) :
    Method.shape.reader (levels + 2) method.toTree = .ok method := by
  obtain ⟨name, types⟩ := method
  cases types with
  | none => rfl
  | some types =>
    have read : readOptional (readStrings .sequence) (levels + 1) (.ofStrings types) =
        .ok (some types) := by
      have strings := readStrings_ofStrings .sequence levels types
      unfold Tree.ofStrings Tree.ofList at strings ⊢
      simp only [readOptional, strings]
      rfl
    have members : readMembers Method.shape.slots skipUnknown (levels + 1) {}
        (.ofList [("name", .ofString name), ("parameterTypes", .ofStrings types)]) =
          .ok ⟨some name, some (some types)⟩ := by
      rw [Members.ofList, readMembers_known rfl rfl (Slot.read_of rfl _), Members.ofList,
        readMembers_known rfl rfl (Slot.read_of read _)]
      rfl
    exact Shape.reader_object members rfl

/-- A method is plain. -/
theorem Method.isPlain_toTree (method : Method) : method.toTree.isPlain = true := by
  refine Members.isPlain_ofList fun member among => ?_
  obtain ⟨name, _ | types⟩ := method
  · obtain rfl := List.mem_singleton.mp among
    rfl
  · cases List.mem_cons.mp among with
    | inl first =>
      rw [first]
      rfl
    | inr second =>
      obtain rfl := List.mem_singleton.mp second
      exact Tree.isPlain_ofStrings types

/-- A field is read back. -/
theorem Field.reader_toTree (levels : Nat) (field : Field) :
    Field.shape.reader (levels + 1) field.toTree = .ok field := by
  obtain ⟨name, allowWrite, allowUnsafeAccess⟩ := field
  cases allowWrite <;> cases allowUnsafeAccess <;> rfl

/-- A field is plain. -/
theorem Field.isPlain_toTree (field : Field) : field.toTree.isPlain = true := by
  obtain ⟨name, allowWrite, allowUnsafeAccess⟩ := field
  cases allowWrite <;> cases allowUnsafeAccess <;> rfl

/-! ## Classes -/

namespace ClassEntry

/-- No flag has the key of a member of classes. -/
theorem find?_slots_key (flag : Flag) : slots.find? (fun slot => slot.key == flag.key) = none := by
  cases flag <;> rfl

/-- Flags among the members of a class are kept for the end, whatever has been read before them. -/
theorem readMembers_flags (levels : Nat) (draft : Draft) (flags : List Flag) :
    readMembers slots (keepOther levels) levels draft
        (.ofList (flags.map fun flag => (flag.key, .bool true))) =
      .ok { draft with
        others := (flags.map fun flag => (flag.key, Tree.bool true)).reverse ++ draft.others } := by
  induction flags generalizing draft with
  | nil => rfl
  | cons flag rest hyp =>
    have kept : keepOther levels draft flag.key (.bool true) =
        .ok { draft with others := (flag.key, .bool true) :: draft.others } := rfl
    rw [List.map_cons, Members.ofList, readMembers_unknown (find?_slots_key flag) kept, hyp,
      List.reverse_cons, List.append_assoc, List.singleton_append]

/-- A list of methods or fields that is left out where it is empty is read by its slot, if it is
there. -/
theorem readMembers_unless {levels : Nat} (draft : Draft) {next : Draft} {key : String}
    {value : Tree} {slot : Slot Draft}
    (known : slots.find? (fun slot => slot.key == key) = some slot)
    (unread : slot.isRead draft = false) (read : slot.read levels draft value = .ok next)
    (empty : Bool) (rest : List (String × Tree)) :
    readMembers slots (keepOther levels) levels draft
        (.ofList ((if empty then [] else [(key, value)]) ++ rest)) =
      readMembers slots (keepOther levels) levels (if empty then draft else next)
        (.ofList rest) := by
  cases empty with
  | true => rfl
  | false => exact readMembers_known known unread read

/-- What has been read of a class once all that is written of it has been. -/
def written (entry : ClassEntry) : Draft where
  name := some entry.name
  methods := if entry.methods.isEmpty then none else some entry.methods
  fields := if entry.fields.isEmpty then none else some entry.fields
  others := (flagMembers entry.flags).reverse

/-- Reading a class reads all that is written of it and then finishes. -/
theorem reader_eq_finish (levels : Nat) (entry : ClassEntry) :
    reader (levels + 4) entry.toTree = finish (written entry) := by
  obtain ⟨name, methods, fields, flags⟩ := entry
  have readMethods := readArray_ofList (Method.reader_toTree levels) .sequence methods
  have readFields := readArray_ofList (Field.reader_toTree (levels + 1)) .sequence fields
  let named : Draft := { name := some name }
  let listed : Draft := if methods.isEmpty then named else { named with methods := some methods }
  have unread : listed.fields.isSome = false := by
    dsimp only [listed]
    split <;> rfl
  change (readMembers slots (keepOther (levels + 3)) (levels + 3) {} (.ofList (_ :: _)) >>= finish) =
    _
  rw [Members.ofList, readMembers_known rfl rfl (Slot.read_of rfl _), List.append_assoc,
    readMembers_unless named rfl rfl (Slot.read_of readMethods named),
    readMembers_unless listed rfl unread (Slot.read_of readFields listed), flagMembers,
    readMembers_flags]
  change finish _ = _
  congr 1
  cases methods <;> cases fields <;> simp [listed, named, written, flagMembers]

/-- A class of which all has been read is that class. -/
theorem finish_written (entry : ClassEntry) : finish (written entry) = .ok entry := by
  obtain ⟨name, methods, fields, flags⟩ := entry
  have values : (flagMembers flags).mapM (fun other => do
      let value ← readBool 0 other.2
      return (other.1, value)) =
        (.ok (flags.toList.map fun flag => (flag.key, true)) :
          Except Fault (List (String × Bool))) := by
    rw [flagMembers, mapM_map_ok fun flag => (flag.key, true)]
    intro flag
    rfl
  unfold finish written
  simp only [List.reverse_reverse, values]
  change (flagsOfEntries true _ >>= _) = _
  rw [flagsOfEntries_of_set]
  cases methods <;> cases fields <;> rfl

/-- A class is read back. -/
theorem reader_toTree (levels : Nat) (entry : ClassEntry) :
    reader (levels + 4) entry.toTree = .ok entry :=
  (reader_eq_finish levels entry).trans (finish_written entry)

/-- A class is plain. -/
theorem isPlain_toTree (entry : ClassEntry) : entry.toTree.isPlain = true := by
  refine Members.isPlain_ofList fun member among => ?_
  rw [List.mem_cons, List.mem_append, List.mem_append] at among
  obtain name | (methods | fields) | flags := among
  · rw [name]
    rfl
  · split at methods
    · cases methods
    · obtain rfl := List.mem_singleton.mp methods
      exact Tree.isPlain_ofList Method.isPlain_toTree entry.methods
  · split at fields
    · cases fields
    · obtain rfl := List.mem_singleton.mp fields
      exact Tree.isPlain_ofList Field.isPlain_toTree entry.fields
  · obtain ⟨flag, _, rfl⟩ := List.mem_map.mp flags
    rfl

end ClassEntry

/-! ## Collections -/

namespace Reflection

/-- A collection is plain. -/
theorem isPlain_toTree (reflection : Reflection) : reflection.toTree.isPlain = true :=
  Tree.isPlain_ofList ClassEntry.isPlain_toTree reflection.entries

/-- A collection is read back. -/
theorem readText_compact_toTree (reflection : Reflection) :
    reader.readText reflection.toTree.compact = .ok reflection := by
  -- Parameter types stand five levels deep: in a method, in the list of methods of a class.
  have entries : readArray .sequence ClassEntry.reader nestingLimit reflection.toTree =
      .ok reflection.entries :=
    readArray_ofList (ClassEntry.reader_toTree 122) .sequence reflection.entries
  rw [Reader.readText_compact reader reflection.isPlain_toTree, reader, entries]
  change Except.ok (ofList reflection.entries) = _
  rw [ext_entries (entries_ofList reflection.nodup)]

end Reflection

end ImageConfig
