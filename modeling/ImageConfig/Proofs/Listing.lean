import ImageConfig.Reflection

/-!
# What entries and collections list

Methods, fields and flags of a class are items of one kind as far as merging is concerned: a merge
neither loses an item nor invents one. So what a collection lists under a name is what the entries
merged into it list under that name (`lists_mergeAll`), in whatever order they came and whether or
not an entry of the name was there before. Where no name comes twice, merging is appending
(`entries_mergeAll`).
-/

namespace ImageConfig

/-- What an entry may list besides its name. -/
inductive Item where
  /-- A method. -/
  | method (method : Method)
  /-- A field. -/
  | field (field : Field)
  /-- A flag. -/
  | flag (flag : Flag)
deriving DecidableEq

/-- Whether an item stands for members that are checked one by one. -/
def Item.isMember : Item → Bool
  | method _ | field _ => true
  | flag asked => asked.isConstructorAccess

namespace ClassEntry

/-- The entry lists the item. -/
def Lists (entry : ClassEntry) : Item → Prop
  | .method method => method ∈ entry.methods
  | .field field => field ∈ entry.fields
  | .flag flag => flag ∈ entry.flags

/-- A merge lists what either entry lists. -/
theorem lists_merge (entry other : ClassEntry) (item : Item) :
    (entry.merge other).Lists item ↔ entry.Lists item ∨ other.Lists item := by
  cases item with
  | method method => exact mem_appendAllNew
  | field field => exact mem_appendAllNew
  | flag flag => exact OrderedSet.mem_union

/-- A stripped entry lists nothing. -/
theorem not_lists_toMinimal (entry : ClassEntry) (item : Item) :
    ¬ entry.toMinimal.Lists item := by
  cases item with
  | method method => exact List.not_mem_nil
  | field field => exact List.not_mem_nil
  | flag flag => exact List.not_mem_nil

/-- An entry that lists a member names members to be checked. -/
theorem membersSpecified_of_lists {entry : ClassEntry} {item : Item} (listed : entry.Lists item)
    (member : item.isMember = true) : entry.membersSpecified = true := by
  cases item with
  | method method =>
    have some : entry.methods.isEmpty = false :=
      List.isEmpty_eq_false_iff.mpr (List.ne_nil_of_mem listed)
    simp [membersSpecified, some]
  | field field =>
    have some : entry.fields.isEmpty = false :=
      List.isEmpty_eq_false_iff.mpr (List.ne_nil_of_mem listed)
    simp [membersSpecified, some]
  | flag flag =>
    have asked : entry.flags.toList.any Flag.isConstructorAccess = true :=
      List.any_eq_true.mpr ⟨flag, listed, member⟩
    simp [membersSpecified, asked]

end ClassEntry

/-- Merging an entry of a new name is appending it. -/
theorem mergeOrAppend_of_not_mem {entry : ClassEntry} {entries : List ClassEntry}
    (fresh : entry.name ∉ entries.map ClassEntry.name) :
    mergeOrAppend entry entries = entries ++ [entry] := by
  induction entries with
  | nil => rfl
  | cons head rest hyp =>
    rw [List.map_cons, List.mem_cons, not_or] at fresh
    rw [mergeOrAppend, if_neg (Ne.symm fresh.1), hyp fresh.2, List.cons_append]

namespace Reflection

/-- The collection lists the item under the name. -/
def Lists (reflection : Reflection) (name : String) (item : Item) : Prop :=
  ∃ entry, reflection.get? name = some entry ∧ entry.Lists item

/-- The empty collection lists nothing. -/
theorem not_lists_empty (name : String) (item : Item) : ¬ (∅ : Reflection).Lists name item := by
  rintro ⟨entry, found, _⟩
  cases found

/-- A collection with one entry merged in lists what it listed and what the entry lists. -/
theorem lists_mergeEntry (reflection : Reflection) (entry : ClassEntry) (name : String)
    (item : Item) :
    (reflection.mergeEntry entry).Lists name item ↔
      reflection.Lists name item ∨ entry.name = name ∧ entry.Lists item := by
  unfold Lists
  rw [get?_mergeEntry]
  by_cases wanted : entry.name = name
  · rw [if_pos wanted]
    cases reflection.get? name with
    | none => simp [wanted]
    | some held => simp [wanted, ClassEntry.lists_merge]
  · simp [wanted]

/-- A collection with entries merged in lists what it listed and what any of the entries lists. -/
theorem lists_mergeAll (reflection : Reflection) (entries : List ClassEntry) (name : String)
    (item : Item) :
    (reflection.mergeAll entries).Lists name item ↔
      reflection.Lists name item ∨ ∃ entry ∈ entries, entry.name = name ∧ entry.Lists item := by
  induction entries generalizing reflection with
  | nil => simp [mergeAll]
  | cons head rest hyp =>
    have step : reflection.mergeAll (head :: rest) = (reflection.mergeEntry head).mergeAll rest :=
      rfl
    rw [step, hyp, lists_mergeEntry, or_assoc]
    simp only [List.mem_cons, exists_eq_or_imp]

/-- The names after merging entries in are those before and those of the entries. -/
theorem mem_names_mergeAll (reflection : Reflection) (entries : List ClassEntry) (name : String) :
    name ∈ (reflection.mergeAll entries).names ↔
      name ∈ reflection.names ∨ ∃ entry ∈ entries, entry.name = name := by
  rw [names_mergeAll, mem_appendAllNew, List.mem_map]

/-- Merging in entries of distinct new names is appending them. -/
theorem entries_mergeAll {reflection : Reflection} {entries : List ClassEntry}
    (distinct : ((reflection.entries ++ entries).map ClassEntry.name).Nodup) :
    (reflection.mergeAll entries).entries = reflection.entries ++ entries := by
  induction entries generalizing reflection with
  | nil => exact (List.append_nil _).symm
  | cons head rest hyp =>
    have fresh : head.name ∉ reflection.entries.map ClassEntry.name := by
      intro held
      rw [List.map_append, List.map_cons, List.nodup_append] at distinct
      exact distinct.2.2 head.name held head.name List.mem_cons_self rfl
    have appended : (reflection.mergeEntry head).entries = reflection.entries ++ [head] :=
      mergeOrAppend_of_not_mem fresh
    have assoc : reflection.entries ++ head :: rest = reflection.entries ++ [head] ++ rest := by
      rw [List.append_assoc, List.singleton_append]
    rw [assoc, ← appended] at distinct ⊢
    exact hyp distinct

/-- A list of entries with distinct names is the list of the collection made of it. -/
theorem entries_ofList {entries : List ClassEntry}
    (distinct : (entries.map ClassEntry.name).Nodup) : (ofList entries).entries = entries := by
  have appended : (mergeAll ∅ entries).entries = (∅ : Reflection).entries ++ entries :=
    entries_mergeAll distinct
  exact appended

end Reflection

end ImageConfig
