import ImageConfig.Proofs.History
import ImageConfig.Proofs.Submission

/-!
# Growth of the classes

The classes of a session only ever grow at the end: names, and flags, methods and fields of each
class, stand as prefixes in what becomes of them (`Reflection.GrowsTo`). The reason is that merging
is the only thing that happens to them, and merging appends.

A collection finds an entry by the name in the entry itself. A table that keeps its keys apart from
its entries (`ClassTable`) could in principle hold an entry under another name. It does not: merged
into in the same order, it holds every entry of the collection under its own name
(`keyed_mergeEntry`). So an entry merged in later meets the entry of its class and no other.
-/

namespace ImageConfig

/-! ## Prefixes -/

/-- Each list of an entry stands first, unmoved, in what becomes of it. -/
structure ClassEntry.GrowsTo (before after : ClassEntry) : Prop where
  /-- Flags. -/
  flags : before.flags.toList <+: after.flags.toList
  /-- Methods. -/
  methods : before.methods <+: after.methods
  /-- Fields. -/
  fields : before.fields <+: after.fields

/-- An entry grows by having another one merged into it. -/
theorem ClassEntry.growsTo_merge (entry other : ClassEntry) :
    entry.GrowsTo (entry.merge other) where
  flags := isPrefix_appendAllNew entry.flags.toList other.flags.toList
  methods := isPrefix_appendAllNew entry.methods other.methods
  fields := isPrefix_appendAllNew entry.fields other.fields

namespace Reflection

/-- The names stand first, unmoved, in what becomes of them, and so do the lists of each class. -/
structure GrowsTo (before after : Reflection) : Prop where
  /-- Names. -/
  names : before.names <+: after.names
  /-- What is held under each name. -/
  entries : ∀ name held, before.get? name = some held →
    ∃ grown, after.get? name = some grown ∧ held.GrowsTo grown

/-- A collection grows by having entries merged into it. -/
theorem growsTo_mergeAll (reflection : Reflection) (entries : List ClassEntry) :
    reflection.GrowsTo (reflection.mergeAll entries) := by
  constructor
  case names =>
    rw [names_mergeAll]
    exact isPrefix_appendAllNew reflection.names (entries.map ClassEntry.name)
  case entries =>
    intro name held found
    obtain ⟨more, grown⟩ := get?_mergeAll_of_get? found entries
    exact ⟨held.merge more, grown, held.growsTo_merge more⟩

/-! ## Flags -/

/-- The flags requested for the named class. -/
def flags (reflection : Reflection) (name : String) : List Flag :=
  ((reflection.get? name).map fun entry => entry.flags.toList).getD []

/-- Merging an entry in appends its flags to those of its class, as far as they are new. -/
theorem flags_mergeEntry (reflection : Reflection) (entry : ClassEntry) (name : String) :
    (reflection.mergeEntry entry).flags name =
      appendAllNew (reflection.flags name)
        (if entry.name = name then entry.flags.toList else []) := by
  unfold flags
  rw [get?_mergeEntry]
  by_cases wanted : entry.name = name
  · rw [if_pos wanted, if_pos wanted]
    cases reflection.get? name with
    | none =>
      have whole : appendAllNew [] entry.flags.toList = entry.flags.toList :=
        congrArg OrderedSet.toList entry.flags.ofList_toList
      exact whole.symm
    | some held => rfl
  · rw [if_neg wanted, if_neg wanted]
    rfl

/-- The flags of a class after entries were merged in are those before and then those of the
entries of that name, as far as they are new. -/
theorem flags_mergeAll (reflection : Reflection) (entries : List ClassEntry) (name : String) :
    (reflection.mergeAll entries).flags name =
      appendAllNew (reflection.flags name)
        ((entries.filter fun entry => entry.name = name).flatMap fun entry =>
          entry.flags.toList) := by
  induction entries generalizing reflection with
  | nil => rfl
  | cons entry rest hyp =>
    have step : reflection.mergeAll (entry :: rest) = (reflection.mergeEntry entry).mergeAll rest :=
      rfl
    rw [step, hyp, flags_mergeEntry]
    by_cases wanted : entry.name = name
    · rw [if_pos wanted, List.filter_cons_of_pos (by simpa using wanted), List.flatMap_cons,
        appendAllNew_append]
    · rw [if_neg wanted, List.filter_cons_of_neg (by simpa using wanted), appendAllNew_nil]

end Reflection

/-! ## Keys -/

/-- Class entries under keys, in the order in which the keys first came. Nothing ties an entry to
the key that it stands under. -/
abbrev ClassTable := OrderedMap String ClassEntry

namespace ClassTable

/-- The table with an entry merged into the one that stands under its name, or put there if there
is none. -/
def mergeEntry (table : ClassTable) (entry : ClassEntry) : ClassTable :=
  match table.get? entry.name with
  | some held => table.insert entry.name (held.merge entry)
  | none => table.insert entry.name entry

/-- The table with the listed entries merged in, in order. -/
def mergeAll (table : ClassTable) (entries : List ClassEntry) : ClassTable :=
  entries.foldl mergeEntry table

end ClassTable

namespace Reflection

/-- The collection as a table with every entry under its own name. -/
def keyed (reflection : Reflection) : ClassTable where
  entries := reflection.entries.map fun entry => (entry.name, entry)
  nodup := by
    rw [List.map_map]
    exact reflection.nodup

/-- What stands under a key is what is held under that name. -/
theorem get?_keyed (reflection : Reflection) (name : String) :
    reflection.keyed.get? name = reflection.get? name := by
  show ((reflection.entries.map fun entry => (entry.name, entry)).find?
    fun pair => pair.1 = name).map Prod.snd = reflection.get? name
  rw [List.find?_map, Option.map_map]
  exact congrFun Option.map_id (reflection.get? name)

/-- An entry that is merged into the one of its name comes to stand under that name. -/
theorem map_keyed_mergeOrAppend {entry held : ClassEntry} {entries : List ClassEntry}
    (found : entries.find? (fun other => other.name = entry.name) = some held) :
    (mergeOrAppend entry entries).map (fun entry => (entry.name, entry)) =
      replaceOrAppend entry.name (held.merge entry)
        (entries.map fun entry => (entry.name, entry)) := by
  induction entries with
  | nil => cases found
  | cons head rest hyp =>
    by_cases here : head.name = entry.name
    · have same : head = held := by simpa [here] using found
      simp [mergeOrAppend, replaceOrAppend, here, ← same]
    · have later := hyp (by simpa [here] using found)
      simp [mergeOrAppend, replaceOrAppend, here, later]

/-- To merge an entry in by its name is to merge it in by the key, and the entry comes to stand
under its own name. -/
theorem keyed_mergeEntry (reflection : Reflection) (entry : ClassEntry) :
    (reflection.mergeEntry entry).keyed = reflection.keyed.mergeEntry entry := by
  apply OrderedMap.ext_entries
  unfold ClassTable.mergeEntry
  rw [get?_keyed]
  cases found : reflection.get? entry.name with
  | some held => exact map_keyed_mergeOrAppend found
  | none =>
    have fresh : entry.name ∉ reflection.entries.map ClassEntry.name := by
      intro named
      obtain ⟨held, other⟩ := exists_get?_of_mem_names named
      rw [found] at other
      cases other
    have keys : reflection.keyed.entries.map Prod.fst = reflection.entries.map ClassEntry.name :=
      List.map_map
    have listed : (reflection.mergeEntry entry).entries = reflection.entries ++ [entry] :=
      mergeOrAppend_of_not_mem fresh
    rw [← keys] at fresh
    show (reflection.mergeEntry entry).entries.map (fun entry => (entry.name, entry)) =
      replaceOrAppend entry.name entry reflection.keyed.entries
    rw [listed, List.map_append, OrderedMap.replaceOrAppend_of_not_mem fresh]
    rfl

/-- A table into which entries are merged holds every entry under its own name, in the order of the
collection into which the same entries are merged. -/
theorem keyed_mergeAll (reflection : Reflection) (entries : List ClassEntry) :
    (reflection.mergeAll entries).keyed = reflection.keyed.mergeAll entries := by
  induction entries generalizing reflection with
  | nil => rfl
  | cons entry rest hyp =>
    have step : reflection.mergeAll (entry :: rest) = (reflection.mergeEntry entry).mergeAll rest :=
      rfl
    rw [step, hyp, keyed_mergeEntry]
    rfl

end Reflection

/-! ## Runs -/

namespace Session

variable {σ κ : Type}

/-- The classes grow over a run. -/
theorem growsTo_ending (session : Session σ κ) (outside : Outside σ κ)
    (commands : List (Command σ κ)) :
    session.config.reflection.GrowsTo (session.ending outside commands).1.config.reflection := by
  rw [reflection_ending]
  exact session.config.reflection.growsTo_mergeAll _

/-- At the end of a run from a new session, the classes are those that the run merged in. A table
that keeps its keys apart from its entries, grown in the same way, holds each of them under its own
name and nothing else. Names are listed once each, at their first occurrence, and so are the flags
of each class. Whatever is registered next, with whatever answers of the type system, and whatever
else is done, names and the flags, methods and fields of each class stay in front of all that comes
to them. -/
theorem classes_append_only (settings : Settings) (system : TypeSystem σ)
    (outside : Outside σ κ) (commands : List (Command σ κ)) :
    let opened : Session σ κ := Session.new settings system
    let merged := (opened.gather absorbed outside commands).flatMap Notification.classes
    let now := opened.ending outside commands
    let stored := now.1.config.reflection
    (ClassTable.mergeAll ∅ merged).entries = stored.entries.map (fun entry => (entry.name, entry)) ∧
    stored.names = (merged.map ClassEntry.name).eraseDups ∧ stored.names.Nodup ∧
    (∀ entry ∈ stored.entries,
      entry.flags.toList = ((merged.filter fun other => other.name = entry.name).flatMap
        fun other => other.flags.toList).eraseDups ∧ entry.flags.toList.Nodup) ∧
    (∀ (registration : Registration σ) (next : Outside σ κ),
      stored.GrowsTo (now.1.register registration next).session.config.reflection) ∧
    ∀ (more : List (Command σ κ)) (next : Outside σ κ),
      stored.GrowsTo (now.1.ending next more).1.config.reflection := by
  intro opened merged now stored
  have collected : stored = Reflection.mergeAll ∅ merged := by
    have stored := opened.reflection_ending outside commands
    rw [← classes_gather] at stored
    exact stored
  refine ⟨?keys, ?names, stored.nodup, ?flags, ?registration, ?run⟩
  case keys =>
    have keyed := Reflection.keyed_mergeAll ∅ merged
    rw [← collected] at keyed
    exact (congrArg OrderedMap.entries keyed).symm
  case names =>
    rw [collected, Reflection.names_mergeAll]
    exact appendAllNew_nil_left _
  case flags =>
    intro entry among
    have found : stored.flags entry.name = entry.flags.toList := by
      unfold Reflection.flags
      rw [Reflection.get?_of_mem among]
      rfl
    have requested := Reflection.flags_mergeAll ∅ merged entry.name
    rw [← collected, found] at requested
    exact ⟨requested.trans (appendAllNew_nil_left _), entry.flags.nodup⟩
  case registration =>
    intro registration next
    exact now.1.growsTo_ending next [.register registration]
  case run =>
    intro more next
    exact now.1.growsTo_ending next more

end Session

end ImageConfig
