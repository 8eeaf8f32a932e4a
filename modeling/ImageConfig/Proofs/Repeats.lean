import ImageConfig.ConfigFile.Proxies
import ImageConfig.Proofs.FirstFault
import ImageConfig.Proofs.Steadiness
import ImageConfig.Proofs.Submission
import ImageConfig.Proofs.Merging

/-!
# Repeats

Adding and merging never list an item twice, but they leave alone what is listed already. So whether
a list holds repeats is decided where it starts (`nodup_appendAllNew_iff`), and there are two places
where a list starts with whatever it is given.

A class is stored as it was submitted when no class of its name is stored yet. So a stored class
lists a member twice exactly if the first submission of it that counted did
(`Session.stored_unrepeated_iff`), while a class whose name is stored already loses its repeats on
the way. A collection of proxies is read as its text lists it. So an interface list comes twice
exactly if the collection goes back to a text in which one does (`Proxies.nodup_iff_origin`).
-/

namespace ImageConfig

open Json

/-! ## Lists -/

section Lists

variable {α : Type} [DecidableEq α]

/-- Appending new items leaves the repeats of a list as they are. -/
theorem nodup_appendAllNew_iff {items others : List α} :
    (appendAllNew items others).Nodup ↔ items.Nodup := by
  constructor
  · intro distinct
    exact distinct.sublist (isPrefix_appendAllNew items others).sublist
  · intro distinct
    exact nodup_appendAllNew distinct others

/-- A list that is appended to nothing, item by item, stays as it is exactly if it has no
repeats. -/
theorem appendAllNew_nil_eq_iff {items : List α} : appendAllNew [] items = items ↔ items.Nodup := by
  constructor
  · intro same
    rw [← same]
    exact nodup_appendAllNew List.nodup_nil items
  · intro distinct
    exact appendAllNew_of_nodup distinct

end Lists

/-! ## Members of a class -/

namespace ClassEntry

/-- No member is listed twice. -/
structure Unrepeated (entry : ClassEntry) : Prop where
  /-- No method is. -/
  methods : entry.methods.Nodup
  /-- No field is. -/
  fields : entry.fields.Nodup

/-- An entry that is stripped to its name lists nothing twice. -/
theorem unrepeated_toMinimal (entry : ClassEntry) : entry.toMinimal.Unrepeated :=
  ⟨List.nodup_nil, List.nodup_nil⟩

/-- What is merged into an entry makes no difference to its repeats. -/
theorem unrepeated_merge_iff (entry other : ClassEntry) :
    (entry.merge other).Unrepeated ↔ entry.Unrepeated := by
  constructor
  · rintro ⟨methods, fields⟩
    exact ⟨nodup_appendAllNew_iff.mp methods, nodup_appendAllNew_iff.mp fields⟩
  · rintro ⟨methods, fields⟩
    exact ⟨nodup_appendAllNew_iff.mpr methods, nodup_appendAllNew_iff.mpr fields⟩

/-- Whatever is merged into an entry, one after the other, makes no difference to its repeats. -/
theorem unrepeated_mergeAll_iff (entry : ClassEntry) (others : List ClassEntry) :
    (entry.mergeAll others).Unrepeated ↔ entry.Unrepeated := by
  induction others generalizing entry with
  | nil => exact Iff.rfl
  | cons other rest hyp => exact (hyp (entry.merge other)).trans (entry.unrepeated_merge_iff other)

/-- The entry with one more item. -/
def add (entry : ClassEntry) : Item → ClassEntry
  | .method method => entry.addMethod method
  | .field field => entry.addField field
  | .flag flag => entry.addFlag flag

/-- An entry that is built up from its name, item by item. -/
def build (name : String) (items : List Item) : ClassEntry := items.foldl add { name }

/-- An item that is added to an entry is not listed twice. -/
theorem Unrepeated.add {entry : ClassEntry} (unrepeated : entry.Unrepeated) (item : Item) :
    (entry.add item).Unrepeated := by
  cases item with
  | method method => exact ⟨nodup_appendNew unrepeated.methods method, unrepeated.fields⟩
  | field field => exact ⟨unrepeated.methods, nodup_appendNew unrepeated.fields field⟩
  | flag flag => exact ⟨unrepeated.methods, unrepeated.fields⟩

/-- An entry that is built up item by item lists no member twice. -/
theorem unrepeated_build (name : String) (items : List Item) :
    (build name items).Unrepeated := by
  have started : ClassEntry.Unrepeated { name } := ⟨List.nodup_nil, List.nodup_nil⟩
  unfold build
  generalize ({ name } : ClassEntry) = entry at started ⊢
  induction items generalizing entry with
  | nil => exact started
  | cons item rest hyp => exact hyp (entry.add item) (started.add item)

/-- An entry that is merged into its own name stays as it is exactly if it lists no member
twice. -/
theorem toMinimal_merge_eq_iff (entry : ClassEntry) :
    entry.toMinimal.merge entry = entry ↔ entry.Unrepeated := by
  constructor
  · intro same
    rw [← same, unrepeated_merge_iff]
    exact entry.unrepeated_toMinimal
  · rintro ⟨methods, fields⟩
    have methods : appendAllNew [] entry.methods = entry.methods :=
      appendAllNew_nil_eq_iff.mpr methods
    have fields : appendAllNew [] entry.fields = entry.fields := appendAllNew_nil_eq_iff.mpr fields
    have flags := entry.flags.empty_union
    simp only [merge, toMinimal, methods, fields, flags]

end ClassEntry

namespace Reflection

/-- What is found under a name after entries were merged in: what was held, or else the first entry
of the name, with all entries of the name merged in. -/
theorem get?_mergeAll (reflection : Reflection) (entries : List ClassEntry) (name : String) :
    (reflection.mergeAll entries).get? name =
      ((reflection.get? name).or (entries.find? fun entry => entry.name = name)).map fun first =>
        first.mergeAll (entries.filter fun entry => entry.name = name) := by
  induction entries generalizing reflection with
  | nil =>
    rw [List.find?_nil, Option.or_none]
    exact (congrFun Option.map_id (reflection.get? name)).symm
  | cons entry rest hyp =>
    have step : reflection.mergeAll (entry :: rest) = (reflection.mergeEntry entry).mergeAll rest :=
      rfl
    rw [step, hyp, get?_mergeEntry]
    by_cases wanted : entry.name = name
    · rw [if_pos wanted, List.find?_cons_of_pos (by simpa using wanted),
        List.filter_cons_of_pos (by simpa using wanted)]
      cases reflection.get? name with
      | some held => rfl
      | none =>
        -- The first entry of the name is among those that are merged into it.
        have whole : entry.merge entry = entry := ClassEntry.leftRegularBand_merge.self entry
        have again : entry.mergeAll (entry :: rest.filter fun entry => entry.name = name) =
            entry.mergeAll (rest.filter fun entry => entry.name = name) :=
          congrArg (ClassEntry.mergeAll · _) whole
        exact congrArg some again.symm
    · rw [if_neg wanted, List.find?_cons_of_neg (by simpa using wanted),
        List.filter_cons_of_neg (by simpa using wanted)]

/-- Where no class of its name is held, it makes a difference whether an entry is merged in at once
or after its name, unless it lists no member twice. -/
theorem mergeEntry_eq_iff {reflection : Reflection} {entry : ClassEntry}
    (fresh : entry.name ∉ reflection.names) :
    reflection.mergeEntry entry = (reflection.mergeEntry entry.toMinimal).mergeEntry entry ↔
      entry.Unrepeated := by
  have once : (reflection.mergeEntry entry).entries = reflection.entries ++ [entry] :=
    mergeOrAppend_of_not_mem fresh
  have twice : ((reflection.mergeEntry entry.toMinimal).mergeEntry entry).entries =
      reflection.entries ++ [entry.toMinimal.merge entry] := by
    have grouped := mergeOrAppend_merge entry.toMinimal_name reflection.entries
    exact grouped.symm.trans (mergeOrAppend_of_not_mem fresh)
  rw [← entry.toMinimal_merge_eq_iff]
  constructor
  · intro same
    have lists := congrArg entries same
    rw [once, twice, List.append_cancel_left_eq] at lists
    exact (List.cons.inj lists).1.symm
  · intro same
    apply ext_entries
    rw [once, twice, same]

end Reflection

namespace Submission

variable {σ : Type}

/-- The first submission of the name that counted for anything. -/
def first? (submissions : List (Submission σ)) (name : String) : Option (Submission σ) :=
  submissions.find? fun submission =>
    submission.entry.name = name ∧ submission.outcome ≠ .rejected

/-- The first entry of the name that is left of submissions is what is left of the first one that
counted. -/
theorem find?_kept (submissions : List (Submission σ)) (name : String) :
    ((submissions.filterMap kept).find? fun entry => entry.name = name) =
      (first? submissions name).bind kept := by
  have counted (submission : Submission σ) :
      submission.kept.any (fun entry => entry.name = name) =
        decide (submission.entry.name = name ∧ submission.outcome ≠ .rejected) := by
    unfold kept
    by_cases named : submission.entry.name = name <;> cases submission.outcome <;>
      simp [Outcome.kept, named]
  rw [List.find?_filterMap]
  simp only [counted]
  rfl

/-- What is left of a submission lists no member twice, unless the entry was accepted and lists one
twice. -/
theorem unrepeated_iff_of_kept {submission : Submission σ} {left : ClassEntry}
    (kept : submission.kept = some left) :
    left.Unrepeated ↔ (submission.outcome = .accepted → submission.entry.Unrepeated) := by
  unfold Submission.kept at kept
  cases outcome : submission.outcome with
  | accepted =>
    rw [outcome] at kept
    obtain rfl := Option.some.inj kept
    simp
  | downgraded =>
    rw [outcome] at kept
    obtain rfl := Option.some.inj kept
    simp [submission.entry.unrepeated_toMinimal]
  | rejected =>
    rw [outcome] at kept
    cases kept

end Submission

namespace Session

variable {σ κ : Type}

/-- **A stored class lists a member twice exactly if the first submission of it that counted did.**
At the end of every run from a new session, each stored class goes back to a first submission that
was accepted or downgraded, and it lists a method or a field twice if and only if that submission
was accepted and does so. An entry that is built up item by item never does. For a class that is not
stored yet it makes a difference whether its name is registered before it, unless it lists no member
twice. -/
theorem stored_unrepeated_iff (settings : Settings) (system : TypeSystem σ)
    (outside : Outside σ κ) (commands : List (Command σ κ)) :
    let opened : Session σ κ := Session.new settings system
    let submissions := opened.gather submitted outside commands
    let stored := (opened.ending outside commands).1.config.reflection
    (∀ entry ∈ stored.entries, ∃ first, Submission.first? submissions entry.name = some first ∧
      (entry.Unrepeated ↔ (first.outcome = .accepted → first.entry.Unrepeated))) ∧
    (∀ name items, (ClassEntry.build name items).Unrepeated) ∧
    ∀ entry : ClassEntry, entry.name ∉ stored.names →
      (stored.mergeEntry entry = (stored.mergeEntry entry.toMinimal).mergeEntry entry ↔
        entry.Unrepeated) := by
  intro opened submissions stored
  refine ⟨fun entry among => ?stored, ClassEntry.unrepeated_build,
    fun entry => Reflection.mergeEntry_eq_iff⟩
  case stored =>
    have merged : stored = Reflection.mergeAll ∅ (submissions.filterMap Submission.kept) :=
      opened.reflection_ending outside commands
    have found := Reflection.get?_of_mem among
    rw [merged, Reflection.get?_mergeAll, Submission.find?_kept] at found
    obtain ⟨left, before, grown⟩ := Option.map_eq_some_iff.mp found
    obtain ⟨first, counted, kept⟩ := Option.bind_eq_some_iff.mp before
    refine ⟨first, counted, ?_⟩
    rw [← grown, ClassEntry.unrepeated_mergeAll_iff]
    exact Submission.unrepeated_iff_of_kept kept

/-- A service with a repeated method and a repeated field is stored with both repeats, registered
alone or in a collection. Registered after its name, it is stored with neither. -/
theorem service_stored_with_repeats :
    let service : ClassEntry :=
      { name := "app.Service"
        methods := [{ name := "run" }, { name := "run" }]
        fields := [{ name := "count" }, { name := "count" }] }
    let opened : Session Nat Nat := Session.new {} (.known pluginTypes)
    let stored (commands : List (Command Nat Nat)) :=
      (opened.ending ⟨0, 0⟩ commands).1.config.reflection.entries
    stored [.register (.addClass service)] = [service] ∧
    stored [.register (.addReflection (.ofList [service]))] = [service] ∧
    ¬ service.methods.Nodup ∧ ¬ service.fields.Nodup ∧
    stored [.register (.addClass { name := "app.Service" }), .register (.addClass service)] =
      [{ name := "app.Service", methods := [{ name := "run" }], fields := [{ name := "count" }] }]
    := by
  decide +kernel

end Session

/-! ## Proxies -/

namespace Proxies

/-- A collection that is merged in makes no difference to the repeats of the one that it meets. -/
theorem nodup_merge_iff (proxies other : Proxies) :
    (proxies.merge other).toList.Nodup ↔ proxies.toList.Nodup :=
  nodup_appendAllNew_iff

/-- One more proxy makes no difference to the repeats of a collection. -/
theorem nodup_add_iff (proxies : Proxies) (proxy : Proxy) :
    (proxies.add proxy).toList.Nodup ↔ proxies.toList.Nodup :=
  proxies.nodup_merge_iff ⟨[proxy]⟩

/-- A way to make a collection of proxies. -/
inductive Making where
  /-- Nothing is registered yet. -/
  | new
  /-- The proxies that a text lists. -/
  | read (text : String)
  /-- A collection that was made before, with one more proxy. -/
  | add (before : Making) (proxy : Proxy)
  /-- A collection that was made before, with another one merged in. -/
  | merge (before other : Making)

namespace Making

/-- The collection that is made, unless some text is not read. -/
def make : Making → Except Fault Proxies
  | new => return ∅
  | read text => reader.readText text
  | add before proxy => do
    let proxies ← before.make
    return proxies.add proxy
  | merge before other => do
    let proxies ← before.make
    let more ← other.make
    return proxies.merge more

/-- The collection that adding and merging began with: an empty one, or what a text lists. -/
def origin : Making → Except Fault Proxies
  | new => return ∅
  | read text => reader.readText text
  | add before _ | merge before _ => before.origin

end Making

/-- A collection has no repeats exactly if the one that adding and merging began with has none. -/
theorem exists_origin {making : Making} {proxies : Proxies} (made : making.make = .ok proxies) :
    ∃ origin, making.origin = .ok origin ∧ (proxies.toList.Nodup ↔ origin.toList.Nodup) := by
  induction making generalizing proxies with
  | new => exact ⟨proxies, made, Iff.rfl⟩
  | read text => exact ⟨proxies, made, Iff.rfl⟩
  | add before proxy hyp =>
    obtain ⟨held, begun, added⟩ := bind_eq_ok_iff.mp made
    obtain ⟨origin, first, same⟩ := hyp begun
    obtain rfl : held.add proxy = proxies := Except.ok.inj added
    exact ⟨origin, first, (held.nodup_add_iff proxy).trans same⟩
  | merge before other hyp _ =>
    obtain ⟨held, begun, others⟩ := bind_eq_ok_iff.mp made
    obtain ⟨more, _, merged⟩ := bind_eq_ok_iff.mp others
    obtain ⟨origin, first, same⟩ := hyp begun
    obtain rfl : held.merge more = proxies := Except.ok.inj merged
    exact ⟨origin, first, (held.nodup_merge_iff more).trans same⟩

/-- Proxies that are merged into none stay as they are exactly if they have no repeats. -/
theorem empty_merge_eq_iff (proxies : Proxies) :
    (∅ : Proxies).merge proxies = proxies ↔ proxies.toList.Nodup := by
  rw [← appendAllNew_nil_eq_iff]
  constructor
  · intro same
    exact congrArg toList same
  · intro same
    exact congrArg Proxies.mk same

/-- **An interface list comes twice exactly if it did in the text that the collection goes back
to.** However a collection is made, by adding and merging from nothing or from a text, it has no
repeats if and only if what it began with has none, whatever texts were merged in on the way. Those
are also exactly the collections that come out as they are when they are merged into an empty
one. -/
theorem nodup_iff_origin {making : Making} {proxies : Proxies}
    (made : making.make = .ok proxies) :
    ∃ origin, making.origin = .ok origin ∧ (proxies.toList.Nodup ↔ origin.toList.Nodup) ∧
      ((∅ : Proxies).merge proxies = proxies ↔ origin.toList.Nodup) := by
  obtain ⟨origin, first, same⟩ := exists_origin made
  exact ⟨origin, first, same, proxies.empty_merge_eq_iff.trans same⟩

/-- Repeats of a text that is merged in get lost, as does a proxy that is added a second time. -/
theorem merged_text_nodup_iff_origin :
    let making : Making :=
      .merge (.add (.read "[[\"a.A\"],[\"b.B\"]]") ["a.A"]) (.read "[[\"c.C\"],[\"c.C\"]]")
    let proxies : Proxies := ⟨[["a.A"], ["b.B"], ["c.C"]]⟩
    making.make = .ok proxies ∧
    ∃ origin, making.origin = .ok origin ∧ (proxies.toList.Nodup ↔ origin.toList.Nodup) ∧
      ((∅ : Proxies).merge proxies = proxies ↔ origin.toList.Nodup) := by
  intro making proxies
  have made : making.make = .ok proxies := rfl
  exact ⟨made, nodup_iff_origin made⟩

/-- An interface list that a text lists twice comes twice in the collection that is read. Merged
into an empty one, that collection comes out with the list once. -/
theorem repeated_text_not_nodup :
    let proxies : Proxies := ⟨[["a.A"], ["a.A"]]⟩
    (Making.read "[[\"a.A\"],[\"a.A\"]]").make = .ok proxies ∧ ¬ proxies.toList.Nodup ∧
    (∅ : Proxies).merge proxies = ⟨[["a.A"]]⟩ ∧ (∅ : Proxies).merge proxies ≠ proxies := by
  intro proxies
  have read : (Making.read "[[\"a.A\"],[\"a.A\"]]").make = .ok proxies := rfl
  have repeats : ¬ proxies.toList.Nodup := by decide
  have merged : (∅ : Proxies).merge proxies = ⟨[["a.A"]]⟩ := by decide
  exact ⟨read, repeats, merged, fun same => repeats (proxies.empty_merge_eq_iff.mp same)⟩

end Proxies

end ImageConfig
