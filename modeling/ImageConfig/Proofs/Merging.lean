import Mathlib.Data.List.Basic
import Mathlib.Data.List.Induction
import ImageConfig.Proxies
import ImageConfig.Resources
import ImageConfig.Proofs.Listing

/-!
# Laws of merging

Class entries, collections of them, resources and proxies grow by merging. The four merges obey the
same three laws (`LeftRegularBand`): grouping makes no difference, a value merged into itself stays
as it is, and merging in again what stands on the left adds nothing. The laws hold as equations of
values, so first insertions stay where they are and repeats within an entry or among proxies are
kept. Merging does not commute, because what comes first stands first.

The laws of lists carry over to entries member by member. For collections the point is that an entry
may be merged into a collection before or after that collection is merged into another one
(`mergeAll_mergeOrAppend`); the entry may then meet an entry of its name in both, in one or in
neither.
-/

namespace ImageConfig

/-- Merging is associative and idempotent, and adds nothing of its left side once more. -/
structure LeftRegularBand {α : Type} (merge : α → α → α) : Prop where
  /-- Grouping makes no difference. -/
  assoc : ∀ first second third,
    merge (merge first second) third = merge first (merge second third)
  /-- A value merged into itself stays as it is. -/
  self : ∀ value, merge value value = value
  /-- What stands on the left adds nothing when it is merged in again. -/
  again : ∀ first second, merge (merge first second) first = merge first second

/-! ## Lists and sets -/

section Lists

variable {α : Type} [DecidableEq α]

/-- Appending items that are all held already changes nothing. -/
theorem appendAllNew_of_forall_mem {items others : List α}
    (held : ∀ item ∈ others, item ∈ items) : appendAllNew items others = items := by
  induction others with
  | nil => rfl
  | cons head rest hyp =>
    rw [List.forall_mem_cons] at held
    rw [appendAllNew_cons, appendNew_of_mem held.1, hyp held.2]

/-- An item may be appended to a list before or after that list is appended to another one. -/
theorem appendAllNew_appendNew (items others : List α) (item : α) :
    appendAllNew items (appendNew others item) = appendNew (appendAllNew items others) item := by
  by_cases held : item ∈ others
  · have later : item ∈ appendAllNew items others := mem_appendAllNew.mpr (Or.inr held)
    rw [appendNew_of_mem held, appendNew_of_mem later]
  · rw [appendNew_of_not_mem held, appendAllNew_append, appendAllNew_cons, appendAllNew_nil]

/-- Appending new items obeys the laws of merging, whether or not the lists hold repeats. -/
theorem leftRegularBand_appendAllNew :
    LeftRegularBand fun items others : List α => appendAllNew items others where
  assoc first second third := by
    induction third generalizing second with
    | nil => rfl
    | cons item rest hyp =>
      have grouped := hyp (appendNew second item)
      simp only [appendAllNew_cons, ← appendAllNew_appendNew] at grouped ⊢
      exact grouped
  self _ := appendAllNew_of_forall_mem fun _ held => held
  again _ _ := appendAllNew_of_forall_mem fun _ held => mem_appendAllNew.mpr (Or.inl held)

/-- Where no item comes twice, appending the new items is appending them all. -/
theorem appendAllNew_of_nodup {items others : List α} (distinct : (items ++ others).Nodup) :
    appendAllNew items others = items ++ others := by
  induction others generalizing items with
  | nil => exact (List.append_nil items).symm
  | cons head rest hyp =>
    have fresh : head ∉ items := fun held =>
      (List.nodup_append.mp distinct).2.2 head held head List.mem_cons_self rfl
    rw [List.append_cons] at distinct ⊢
    rw [appendAllNew_cons, appendNew_of_not_mem fresh, hyp distinct]

/-- Where no key comes twice, an item is what is found under its key. -/
theorem find?_key_of_mem {β : Type} {key : β → α} {items : List β}
    (distinct : (items.map key).Nodup) {item : β} (among : item ∈ items) :
    items.find? (fun other => key other = key item) = some item := by
  induction items with
  | nil => exact absurd among List.not_mem_nil
  | cons head rest hyp =>
    rw [List.map_cons, List.nodup_cons] at distinct
    cases List.mem_cons.mp among with
    | inl first => simp [first]
    | inr later =>
      have other : ¬ key head = key item := fun here =>
        distinct.1 (here ▸ List.mem_map_of_mem later)
      rw [List.find?_cons_of_neg (by simpa using other)]
      exact hyp distinct.2 later

/-- The union of sets obeys the laws of merging. -/
theorem OrderedSet.leftRegularBand_union : LeftRegularBand (OrderedSet.union (α := α)) where
  assoc _ _ _ := ext_toList (leftRegularBand_appendAllNew.assoc _ _ _)
  self _ := ext_toList (leftRegularBand_appendAllNew.self _)
  again _ _ := ext_toList (leftRegularBand_appendAllNew.again _ _)

/-- A set united with the empty one on its left is that set, in the same order. -/
theorem OrderedSet.empty_union (set : OrderedSet α) : (∅ : OrderedSet α).union set = set :=
  ext_toList (appendAllNew_of_nodup set.nodup)

/-- The set of the members of a set, in order, is that set. -/
theorem OrderedSet.ofList_toList (set : OrderedSet α) : ofList set.toList = set := set.empty_union

end Lists

/-! ## Entries -/

/-- The merge of class entries obeys the laws of merging. -/
theorem ClassEntry.leftRegularBand_merge : LeftRegularBand ClassEntry.merge where
  assoc first second third := by
    have methods := leftRegularBand_appendAllNew.assoc first.methods second.methods third.methods
    have fields := leftRegularBand_appendAllNew.assoc first.fields second.fields third.fields
    have flags := OrderedSet.leftRegularBand_union.assoc first.flags second.flags third.flags
    simp only [merge, methods, fields, flags]
  self entry := by
    have methods := leftRegularBand_appendAllNew.self entry.methods
    have fields := leftRegularBand_appendAllNew.self entry.fields
    have flags := OrderedSet.leftRegularBand_union.self entry.flags
    simp only [merge, methods, fields, flags]
  again first second := by
    have methods := leftRegularBand_appendAllNew.again first.methods second.methods
    have fields := leftRegularBand_appendAllNew.again first.fields second.fields
    have flags := OrderedSet.leftRegularBand_union.again first.flags second.flags
    simp only [merge, methods, fields, flags]

/-- Two entries of one name may be merged in one after the other or as one. -/
theorem mergeOrAppend_merge {first second : ClassEntry} (same : first.name = second.name)
    (entries : List ClassEntry) :
    mergeOrAppend (first.merge second) entries =
      mergeOrAppend second (mergeOrAppend first entries) := by
  induction entries with
  | nil => simp [mergeOrAppend, same]
  | cons head rest hyp =>
    by_cases here : head.name = first.name
    · have grouped := ClassEntry.leftRegularBand_merge.assoc head first second
      simp [mergeOrAppend, here, same, grouped]
    · have elsewhere : ¬ head.name = second.name := fun there => here (there.trans same.symm)
      simp [mergeOrAppend, here, elsewhere, hyp]

/-- Entries of two names may be merged in either order, once an entry of the first name is held:
only where neither is held does the order decide which comes first. -/
theorem mergeOrAppend_comm {first second : ClassEntry} {entries : List ClassEntry}
    (differ : first.name ≠ second.name) (held : first.name ∈ entries.map ClassEntry.name) :
    mergeOrAppend first (mergeOrAppend second entries) =
      mergeOrAppend second (mergeOrAppend first entries) := by
  induction entries with
  | nil => exact absurd held List.not_mem_nil
  | cons head rest hyp =>
    by_cases here : head.name = first.name
    · have elsewhere : ¬ head.name = second.name := fun there => differ (here.symm.trans there)
      simp [mergeOrAppend, here, differ]
    · by_cases there : head.name = second.name
      · simp [mergeOrAppend, there, Ne.symm differ]
      · have later : first.name ∈ rest.map ClassEntry.name := by
          simpa [Ne.symm here] using held
        simp [mergeOrAppend, here, there, hyp later]

/-- Merging in an entry all of whose items are listed changes nothing. -/
theorem ClassEntry.merge_of_lists {entry other : ClassEntry}
    (listed : ∀ item, other.Lists item → entry.Lists item) : entry.merge other = entry := by
  have methods : appendAllNew entry.methods other.methods = entry.methods :=
    appendAllNew_of_forall_mem fun method => listed (.method method)
  have fields : appendAllNew entry.fields other.fields = entry.fields :=
    appendAllNew_of_forall_mem fun field => listed (.field field)
  have flags : entry.flags.union other.flags = entry.flags :=
    OrderedSet.ext_toList (appendAllNew_of_forall_mem fun flag => listed (.flag flag))
  simp only [merge, methods, fields, flags]

/-- Merging an entry in changes nothing if it adds nothing to the entry held under its name. -/
theorem mergeOrAppend_of_find? {entry held : ClassEntry} {entries : List ClassEntry}
    (found : entries.find? (fun other => other.name = entry.name) = some held)
    (whole : held.merge entry = held) : mergeOrAppend entry entries = entries := by
  induction entries with
  | nil => cases found
  | cons head rest hyp =>
    by_cases here : head.name = entry.name
    · have same : head = held := by simpa [here] using found
      rw [mergeOrAppend, if_pos here, same, whole]
    · rw [mergeOrAppend, if_neg here, hyp (by simpa [here] using found)]

/-- An entry whose name is held in the first of two lists is merged in there. -/
theorem mergeOrAppend_append_of_mem {entry : ClassEntry} {first : List ClassEntry}
    (held : entry.name ∈ first.map ClassEntry.name) (second : List ClassEntry) :
    mergeOrAppend entry (first ++ second) = mergeOrAppend entry first ++ second := by
  induction first with
  | nil => exact absurd held List.not_mem_nil
  | cons head rest hyp =>
    by_cases here : head.name = entry.name
    · simp [mergeOrAppend, here]
    · have later : entry.name ∈ rest.map ClassEntry.name := by simpa [Ne.symm here] using held
      simp [mergeOrAppend, here, hyp later]

/-- An entry whose name is not held in the first of two lists is merged into the second. -/
theorem mergeOrAppend_append_of_not_mem {entry : ClassEntry} {first : List ClassEntry}
    (fresh : entry.name ∉ first.map ClassEntry.name) (second : List ClassEntry) :
    mergeOrAppend entry (first ++ second) = first ++ mergeOrAppend entry second := by
  induction first with
  | nil => rfl
  | cons head rest hyp =>
    rw [List.map_cons, List.mem_cons, not_or] at fresh
    rw [List.cons_append, mergeOrAppend, if_neg (Ne.symm fresh.1), hyp fresh.2, List.cons_append]

/-- Where no name comes twice, an entry of a held name is merged into the entry of that name, and
the others stay as they are. -/
theorem mergeOrAppend_of_mem {entry : ClassEntry} {entries : List ClassEntry}
    (distinct : (entries.map ClassEntry.name).Nodup)
    (held : entry.name ∈ entries.map ClassEntry.name) :
    mergeOrAppend entry entries =
      entries.map fun own => if own.name = entry.name then own.merge entry else own := by
  induction entries with
  | nil => exact absurd held List.not_mem_nil
  | cons head rest hyp =>
    rw [List.map_cons, List.nodup_cons] at distinct
    by_cases here : head.name = entry.name
    · have others : rest.map (fun own => if own.name = entry.name then own.merge entry else own) =
          rest := by
        refine (List.map_congr_left fun own among => if_neg ?_).trans rest.map_id
        exact fun same => distinct.1 (here.trans same.symm ▸ List.mem_map_of_mem among)
      rw [mergeOrAppend, if_pos here, List.map_cons, if_pos here, others]
    · have later : entry.name ∈ rest.map ClassEntry.name := by simpa [Ne.symm here] using held
      rw [mergeOrAppend, if_neg here, List.map_cons, if_neg here, hyp distinct.2 later]

/-- The entry with all of `others`, entries of the same type, merged in, in order. -/
def ClassEntry.mergeAll (entry : ClassEntry) (others : List ClassEntry) : ClassEntry :=
  others.foldl merge entry

@[simp]
theorem ClassEntry.mergeAll_name (entry : ClassEntry) (others : List ClassEntry) :
    (entry.mergeAll others).name = entry.name := by
  induction others generalizing entry with
  | nil => rfl
  | cons other rest hyp => exact hyp (entry.merge other)

/-- Merging in two lists one after the other is merging in their concatenation. -/
theorem ClassEntry.mergeAll_append (entry : ClassEntry) (first second : List ClassEntry) :
    entry.mergeAll (first ++ second) = (entry.mergeAll first).mergeAll second :=
  List.foldl_append

/-! ## Collections -/

namespace Reflection

/-- An entry whose name is held may be merged in before or after entries of other names. -/
theorem mergeAll_mergeEntry {reflection : Reflection} {entry : ClassEntry}
    {entries : List ClassEntry} (other : entry.name ∉ entries.map ClassEntry.name)
    (held : entry.name ∈ reflection.names) :
    (reflection.mergeEntry entry).mergeAll entries =
      (reflection.mergeAll entries).mergeEntry entry := by
  induction entries generalizing reflection with
  | nil => rfl
  | cons head rest hyp =>
    rw [List.map_cons, List.mem_cons, not_or] at other
    have swapped : (reflection.mergeEntry entry).mergeEntry head =
        (reflection.mergeEntry head).mergeEntry entry :=
      ext_entries (mergeOrAppend_comm other.1 held).symm
    have still : entry.name ∈ (reflection.mergeEntry head).names := by
      rw [names_mergeEntry, mem_appendNew]
      exact Or.inl held
    have later := hyp other.2 still
    rw [← swapped] at later
    exact later

/-- An entry may be merged into a list of entries before or after that list is merged into a
collection. -/
theorem mergeAll_mergeOrAppend (reflection : Reflection) (entry : ClassEntry)
    {entries : List ClassEntry} (distinct : (entries.map ClassEntry.name).Nodup) :
    reflection.mergeAll (mergeOrAppend entry entries) =
      (reflection.mergeAll entries).mergeEntry entry := by
  induction entries generalizing reflection with
  | nil => rfl
  | cons head rest hyp =>
    rw [List.map_cons, List.nodup_cons] at distinct
    by_cases here : head.name = entry.name
    · -- The entry becomes part of the head, and nothing of its name follows.
      have grouped : reflection.mergeEntry (head.merge entry) =
          (reflection.mergeEntry head).mergeEntry entry :=
        ext_entries (mergeOrAppend_merge here reflection.entries)
      have held : entry.name ∈ (reflection.mergeEntry head).names := by
        rw [names_mergeEntry, mem_appendNew]
        exact Or.inr here.symm
      have other : entry.name ∉ rest.map ClassEntry.name := here ▸ distinct.1
      have moved := mergeAll_mergeEntry other held
      rw [← grouped] at moved
      rw [mergeOrAppend, if_pos here]
      exact moved
    · rw [mergeOrAppend, if_neg here]
      exact hyp (reflection.mergeEntry head) distinct.2

/-- Entries may be merged into a collection before or after that collection is merged into another
one. -/
theorem mergeAll_entries_mergeAll (reflection other : Reflection) (entries : List ClassEntry) :
    reflection.mergeAll (other.mergeAll entries).entries =
      (reflection.mergeAll other.entries).mergeAll entries := by
  induction entries generalizing other with
  | nil => rfl
  | cons entry rest hyp =>
    have first : reflection.mergeAll (other.mergeEntry entry).entries =
        (reflection.mergeAll other.entries).mergeEntry entry :=
      reflection.mergeAll_mergeOrAppend entry other.nodup
    have later := hyp (other.mergeEntry entry)
    rw [first] at later
    exact later

/-- What is held under a name only grows by further merging. -/
theorem get?_mergeAll_of_get? {reflection : Reflection} {name : String} {held : ClassEntry}
    (found : reflection.get? name = some held) (entries : List ClassEntry) :
    ∃ more, (reflection.mergeAll entries).get? name = some (held.merge more) := by
  induction entries generalizing reflection held with
  | nil =>
    have whole : held.merge held = held := ClassEntry.leftRegularBand_merge.self held
    exact ⟨held, found.trans (congrArg some whole.symm)⟩
  | cons entry rest hyp =>
    by_cases here : entry.name = name
    · have grown : (reflection.mergeEntry entry).get? name = some (held.merge entry) := by
        rw [get?_mergeEntry, if_pos here, found]
        rfl
      obtain ⟨more, later⟩ := hyp grown
      rw [ClassEntry.leftRegularBand_merge.assoc] at later
      exact ⟨entry.merge more, later⟩
    · have unchanged : (reflection.mergeEntry entry).get? name = some held := by
        rw [get?_mergeEntry, if_neg here, found]
      exact hyp unchanged

/-- An entry of a collection is what is held under its name. -/
theorem get?_of_mem {reflection : Reflection} {entry : ClassEntry}
    (among : entry ∈ reflection.entries) : reflection.get? entry.name = some entry :=
  find?_key_of_mem reflection.nodup among

/-- The entry of a name is found under it. -/
theorem exists_get?_of_mem_names {reflection : Reflection} {name : String}
    (named : name ∈ reflection.names) : ∃ held, reflection.get? name = some held := by
  obtain ⟨held, among, rfl⟩ := List.mem_map.mp named
  exact ⟨held, get?_of_mem among⟩

/-- Entries merged into a collection: each entry held before grows in its place by those of its
name, and those of other names make a collection of their own after it. -/
theorem entries_mergeAll_eq (reflection : Reflection) (entries : List ClassEntry) :
    (reflection.mergeAll entries).entries =
      reflection.entries.map (fun held =>
        held.mergeAll (entries.filter fun entry => entry.name = held.name)) ++
      (ofList (entries.filter fun entry => entry.name ∉ reflection.names)).entries := by
  induction entries using List.reverseRecOn with
  | nil => exact ((List.append_nil _).trans reflection.entries.map_id).symm
  | append_singleton before entry hyp =>
    let grown (held : ClassEntry) :=
      held.mergeAll (before.filter fun other => other.name = held.name)
    have names : (reflection.entries.map grown).map ClassEntry.name = reflection.names := by
      rw [List.map_map]
      exact List.map_congr_left fun held _ => held.mergeAll_name _
    have last : (reflection.mergeAll (before ++ [entry])).entries =
        mergeOrAppend entry (reflection.mergeAll before).entries := by
      rw [mergeAll_append]
      rfl
    rw [last, hyp, List.filter_append]
    by_cases known : entry.name ∈ reflection.names
    · -- The entry goes to the one of its name, among those that were held before.
      have distinct : ((reflection.entries.map grown).map ClassEntry.name).Nodup :=
        names ▸ reflection.nodup
      have none : [entry].filter (fun entry => entry.name ∉ reflection.names) = [] := by
        simp [known]
      have own (held : ClassEntry) :
          (if (grown held).name = entry.name then (grown held).merge entry else grown held) =
            held.mergeAll ((before ++ [entry]).filter fun other => other.name = held.name) := by
        rw [List.filter_append, ClassEntry.mergeAll_append, ClassEntry.mergeAll_name]
        by_cases same : held.name = entry.name
        · rw [if_pos same, List.filter_cons_of_pos (by simpa using same.symm)]
          rfl
        · rw [if_neg same, List.filter_cons_of_neg (by simpa using Ne.symm same)]
          rfl
      rw [mergeOrAppend_append_of_mem (names ▸ known),
        mergeOrAppend_of_mem distinct (names ▸ known), List.map_map, none, List.append_nil]
      exact congrArg (· ++ _) (List.map_congr_left fun held _ => own held)
    · -- The entry goes to those that were not held before.
      have own : ∀ held ∈ reflection.entries, grown held =
          held.mergeAll ((before ++ [entry]).filter fun other => other.name = held.name) := by
        intro held among
        have other : ¬ entry.name = held.name := fun same =>
          known (same ▸ List.mem_map_of_mem among)
        simp [grown, other]
      have new : [entry].filter (fun entry => entry.name ∉ reflection.names) = [entry] := by
        simp [known]
      have appended (fresh : List ClassEntry) :
          (ofList (fresh ++ [entry])).entries = mergeOrAppend entry (ofList fresh).entries := by
        rw [ofList, mergeAll_append]
        rfl
      rw [mergeOrAppend_append_of_not_mem (names ▸ known), List.map_congr_left own, new, appended]

/-- Entries that add nothing to the entries held under their names change nothing. -/
theorem mergeAll_of_held {reflection : Reflection} {entries : List ClassEntry}
    (held : ∀ entry ∈ entries, ∃ own, reflection.get? entry.name = some own ∧
      own.merge entry = own) :
    reflection.mergeAll entries = reflection := by
  induction entries with
  | nil => rfl
  | cons entry rest hyp =>
    rw [List.forall_mem_cons] at held
    obtain ⟨⟨own, found, whole⟩, later⟩ := held
    have unchanged : reflection.mergeEntry entry = reflection :=
      ext_entries (mergeOrAppend_of_find? found whole)
    have rest := hyp later
    rw [← unchanged] at rest
    exact rest.trans unchanged

/-- Entries that were merged in add nothing to what is held under their names. -/
theorem get?_mergeAll_of_mem (reflection : Reflection) {entries : List ClassEntry}
    {entry : ClassEntry} (among : entry ∈ entries) :
    ∃ own, (reflection.mergeAll entries).get? entry.name = some own ∧ own.merge entry = own := by
  have named : entry.name ∈ (reflection.mergeAll entries).names :=
    (mem_names_mergeAll reflection entries entry.name).mpr (Or.inr ⟨entry, among, rfl⟩)
  obtain ⟨own, found⟩ := exists_get?_of_mem_names named
  refine ⟨own, found, ClassEntry.merge_of_lists fun item listed => ?_⟩
  obtain ⟨other, same, lists⟩ := (lists_mergeAll reflection entries entry.name item).mpr
    (Or.inr ⟨entry, among, rfl, listed⟩)
  obtain rfl : own = other := Option.some.inj (found.symm.trans same)
  exact lists

/-- The merge of collections obeys the laws of merging. -/
theorem leftRegularBand_merge : LeftRegularBand Reflection.merge where
  assoc first second third := (first.mergeAll_entries_mergeAll second third.entries).symm
  self reflection := mergeAll_of_held fun entry among =>
    ⟨entry, get?_of_mem among, ClassEntry.leftRegularBand_merge.self entry⟩
  again first second := by
    refine mergeAll_of_held fun entry among => ?_
    obtain ⟨more, grown⟩ := get?_mergeAll_of_get? (get?_of_mem among) second.entries
    exact ⟨entry.merge more, grown, ClassEntry.leftRegularBand_merge.again entry more⟩

/-- A collection merged into the empty one is that collection, in the same order. -/
theorem empty_merge (reflection : Reflection) : (∅ : Reflection).merge reflection = reflection :=
  ext_entries (entries_ofList reflection.nodup)

end Reflection

/-- The merge of resources obeys the laws of merging. -/
theorem Resources.leftRegularBand_merge : LeftRegularBand Resources.merge where
  assoc _ _ _ := congrArg₂ Resources.mk (OrderedSet.leftRegularBand_union.assoc _ _ _)
    (OrderedSet.leftRegularBand_union.assoc _ _ _)
  self _ := congrArg₂ Resources.mk (OrderedSet.leftRegularBand_union.self _)
    (OrderedSet.leftRegularBand_union.self _)
  again _ _ := congrArg₂ Resources.mk (OrderedSet.leftRegularBand_union.again _ _)
    (OrderedSet.leftRegularBand_union.again _ _)

/-- Resources merged into none are those resources, in the same order. -/
theorem Resources.empty_merge (resources : Resources) :
    (∅ : Resources).merge resources = resources :=
  congrArg₂ Resources.mk resources.patterns.empty_union resources.bundles.empty_union

/-- The merge of proxies obeys the laws of merging. -/
theorem Proxies.leftRegularBand_merge : LeftRegularBand Proxies.merge where
  assoc _ _ _ := congrArg Proxies.mk (leftRegularBand_appendAllNew.assoc _ _ _)
  self _ := congrArg Proxies.mk (leftRegularBand_appendAllNew.self _)
  again _ _ := congrArg Proxies.mk (leftRegularBand_appendAllNew.again _ _)

/-- The merges of class entries, collections of class entries, resources and proxies are associative
and idempotent and add nothing of their left side once more, order and repeats included. For entries
this does not depend on their names. Merging the empty collection of classes, or no resources, on
either side changes nothing. -/
theorem merges_leftRegularBand :
    LeftRegularBand ClassEntry.merge ∧ LeftRegularBand Reflection.merge ∧
    LeftRegularBand Resources.merge ∧ LeftRegularBand Proxies.merge ∧
    (∀ reflection : Reflection,
      (∅ : Reflection).merge reflection = reflection ∧ reflection.merge ∅ = reflection) ∧
    (∀ resources : Resources,
      (∅ : Resources).merge resources = resources ∧ resources.merge ∅ = resources) :=
  ⟨ClassEntry.leftRegularBand_merge, Reflection.leftRegularBand_merge,
    Resources.leftRegularBand_merge, Proxies.leftRegularBand_merge,
    fun reflection => ⟨reflection.empty_merge, rfl⟩,
    fun resources => ⟨resources.empty_merge, rfl⟩⟩

end ImageConfig
