import ImageConfig.ClassEntry

/-!
# Reflection collections

A collection holds one entry per type, in the order in which the types first came. An entry of a
type that is already present is merged into the entry held; an entry of a new type is held as it
is, its own repeats included. So the names of a collection are distinct by construction, only ever
grow at the end (`names_merge`), and an entry touches no other name (`get?_mergeEntry`).
-/

namespace ImageConfig

/-- The entries with `entry` merged into the one of its name, or at the end if there is none. -/
def mergeOrAppend (entry : ClassEntry) : List ClassEntry → List ClassEntry
  | [] => [entry]
  | head :: rest =>
    if head.name = entry.name then head.merge entry :: rest else head :: mergeOrAppend entry rest

/-- The names after merging an entry are the names before with its name appended if it is new. -/
theorem map_name_mergeOrAppend (entry : ClassEntry) (entries : List ClassEntry) :
    (mergeOrAppend entry entries).map ClassEntry.name =
      appendNew (entries.map ClassEntry.name) entry.name := by
  induction entries with
  | nil => simp [mergeOrAppend, appendNew]
  | cons head rest hyp =>
    by_cases same : head.name = entry.name
    · simp [mergeOrAppend, appendNew, same]
    · simp only [mergeOrAppend, if_neg same, List.map_cons, hyp]
      by_cases held : entry.name ∈ rest.map ClassEntry.name
      · rw [appendNew_of_mem held, appendNew_of_mem (List.mem_cons_of_mem _ held)]
      · rw [appendNew_of_not_mem held, appendNew_of_not_mem]
        · rfl
        · simpa [Ne.symm same] using held

/-- The entry found under a name after merging an entry: under its own name what was held with the
entry merged in, or the entry itself where nothing was held; under other names what was held. -/
theorem find?_mergeOrAppend (entry : ClassEntry) (entries : List ClassEntry) (name : String) :
    (mergeOrAppend entry entries).find? (fun held => held.name = name) =
      if entry.name = name then
        some (((entries.find? fun held => held.name = name).map (·.merge entry)).getD entry)
      else entries.find? fun held => held.name = name := by
  induction entries with
  | nil => by_cases wanted : entry.name = name <;> simp [mergeOrAppend, wanted]
  | cons head rest hyp =>
    by_cases same : head.name = entry.name
    · by_cases wanted : entry.name = name <;> simp [mergeOrAppend, same, wanted]
    · rw [mergeOrAppend, if_neg same]
      by_cases first : head.name = name
      · have other : ¬ entry.name = name := fun wanted => same (first.trans wanted.symm)
        simp [first, other]
      · simp [first, hyp]

/-- Class entries with distinct names, in the order in which the names first came. -/
structure Reflection where
  /-- Entries, first named first. -/
  entries : List ClassEntry
  /-- No name is listed twice. -/
  nodup : (entries.map ClassEntry.name).Nodup
deriving DecidableEq

namespace Reflection

instance : EmptyCollection Reflection := ⟨⟨[], List.nodup_nil⟩⟩

instance : Inhabited Reflection := ⟨∅⟩

@[simp]
theorem entries_empty : (∅ : Reflection).entries = [] := rfl

/-- Collections with the same entries in the same order are equal. -/
@[ext]
theorem ext_entries {left right : Reflection} (same : left.entries = right.entries) :
    left = right := by
  cases left
  cases right
  cases same
  rfl

/-- Names of the classes, first come first. -/
def names (reflection : Reflection) : List String := reflection.entries.map ClassEntry.name

/-- Whether there is no class. -/
def isEmpty (reflection : Reflection) : Bool := reflection.entries.isEmpty

/-- How many classes there are. -/
def size (reflection : Reflection) : Nat := reflection.entries.length

/-- The entry of the named class, if there is one. -/
def get? (reflection : Reflection) (name : String) : Option ClassEntry :=
  reflection.entries.find? fun entry => entry.name = name

/-- Whether there is an entry of the named class. -/
def contains (reflection : Reflection) (name : String) : Bool := (reflection.get? name).isSome

/-- The collection with one entry merged in by its name. -/
def mergeEntry (reflection : Reflection) (entry : ClassEntry) : Reflection where
  entries := mergeOrAppend entry reflection.entries
  nodup := by
    rw [map_name_mergeOrAppend]
    exact nodup_appendNew reflection.nodup entry.name

/-- The collection with the listed entries merged in, in order. -/
def mergeAll (reflection : Reflection) (entries : List ClassEntry) : Reflection :=
  entries.foldl mergeEntry reflection

/-- The collection with all entries of `other` merged in. -/
def merge (reflection other : Reflection) : Reflection := reflection.mergeAll other.entries

/-- The collection of the listed entries; entries of one name become one. -/
def ofList (entries : List ClassEntry) : Reflection := mergeAll ∅ entries

/-- Whether two collections request the same of the same classes, in whatever order the classes
and the flags of a class came. -/
def sameRequests (left right : Reflection) : Bool :=
  left.size == right.size && left.entries.all fun entry =>
    (right.get? entry.name).any entry.sameRequest

@[simp]
theorem names_mergeEntry (reflection : Reflection) (entry : ClassEntry) :
    (reflection.mergeEntry entry).names = appendNew reflection.names entry.name :=
  map_name_mergeOrAppend entry reflection.entries

@[simp]
theorem names_mergeAll (reflection : Reflection) (entries : List ClassEntry) :
    (reflection.mergeAll entries).names =
      appendAllNew reflection.names (entries.map ClassEntry.name) := by
  induction entries generalizing reflection with
  | nil => rfl
  | cons head rest hyp => simpa [mergeAll] using hyp (reflection.mergeEntry head)

/-- Merging an entry changes what is found under its name and nothing else. -/
theorem get?_mergeEntry (reflection : Reflection) (entry : ClassEntry) (name : String) :
    (reflection.mergeEntry entry).get? name =
      if entry.name = name then some (((reflection.get? name).map (·.merge entry)).getD entry)
      else reflection.get? name :=
  find?_mergeOrAppend entry reflection.entries name

/-- The names after a merge are the names before and then those of `other` that are new. -/
@[simp]
theorem names_merge (reflection other : Reflection) :
    (reflection.merge other).names = appendAllNew reflection.names other.names :=
  names_mergeAll reflection other.entries

/-- Merging two lists one after the other is merging their concatenation. -/
theorem mergeAll_append (reflection : Reflection) (first second : List ClassEntry) :
    reflection.mergeAll (first ++ second) = (reflection.mergeAll first).mergeAll second :=
  List.foldl_append

end Reflection

end ImageConfig
