import Mathlib.Data.List.Forall2
import ImageConfig.Proofs.FailureLines
import ImageConfig.Proofs.Merging

/-!
# Class entries that fail verification

A class entry that fails verification does not disturb what is stored. A rejected one leaves
everything as it is. A downgraded one counts by its name alone, and merging a bare name into a class
that is stored changes nothing (`ClassEntry.mergeAll_of_forall`); only where the class is not stored
yet does the name come to the end.

In a collection accepted, downgraded and rejected entries are mixed, and some of them meet stored
classes. Each stored class grows in its place, by the accepted entry of its name or not at all, and
what is new comes after all that was stored, in the order of the collection
(`Reflection.exists_standing`).
-/

namespace ImageConfig

/-- Entries that add nothing to an entry leave it as it is when they are merged into it. -/
theorem ClassEntry.mergeAll_of_forall {entry : ClassEntry} {others : List ClassEntry}
    (covered : ∀ other ∈ others, entry.merge other = entry) : entry.mergeAll others = entry := by
  induction others with
  | nil => rfl
  | cons other rest hyp =>
    obtain ⟨first, later⟩ := List.forall_mem_cons.mp covered
    have step : entry.mergeAll (other :: rest) = (entry.merge other).mergeAll rest := rfl
    rw [step, first, hyp later]

namespace Submission

variable {σ : Type}

/-- No submission of the name is accepted. -/
def NoneAccepted (submissions : List (Submission σ)) (name : String) : Prop :=
  ∀ submission ∈ submissions, submission.entry.name = name → submission.outcome ≠ .accepted

/-- What submissions add to classes of the given names: accepted entries of other names as they are,
and downgraded ones by their names, in the order in which they were submitted. -/
def newcomers (names : List String) (submissions : List (Submission σ)) : List ClassEntry :=
  submissions.filterMap fun submission =>
    if submission.entry.name ∈ names then none
    else match submission.outcome with
      | .accepted => some submission.entry
      | .downgraded => some { name := submission.entry.name }
      | .rejected => none

/-- What is left of submissions under other names than the given ones is what they add. -/
theorem filter_kept_eq_newcomers (names : List String) (submissions : List (Submission σ)) :
    ((submissions.filterMap kept).filter fun entry => entry.name ∉ names) =
      newcomers names submissions := by
  unfold newcomers
  rw [List.filter_filterMap]
  refine List.filterMap_congr fun submission _ => ?_
  unfold kept
  by_cases known : submission.entry.name ∈ names <;> cases submission.outcome <;>
    simp [Outcome.kept, Option.filter, known, ClassEntry.toMinimal]

/-- What is left of submissions leaves an entry as it is if none of its name is accepted. -/
theorem mergeAll_kept {submissions : List (Submission σ)} {held : ClassEntry}
    (none : NoneAccepted submissions held.name) :
    held.mergeAll ((submissions.filterMap kept).filter fun entry => entry.name = held.name) =
      held := by
  refine ClassEntry.mergeAll_of_forall fun entry among => ?_
  obtain ⟨left, named⟩ := List.mem_filter.mp among
  obtain ⟨submission, submitted, left⟩ := List.mem_filterMap.mp left
  have name : submission.entry.name = held.name :=
    (Outcome.name_of_kept left).symm.trans (of_decide_eq_true named)
  have failed := none submission submitted name
  unfold kept at left
  cases outcome : submission.outcome with
  | accepted => exact absurd outcome failed
  | downgraded =>
    rw [outcome] at left
    obtain rfl : submission.entry.toMinimal = entry := Option.some.inj left
    exact held.merge_toMinimal submission.entry
  | rejected =>
    rw [outcome] at left
    cases left

end Submission

/-- Stored classes after submissions of distinct names: each of them in its place, unchanged if no
submission of its name is accepted, and then what the submissions add. -/
theorem Reflection.exists_standing {σ : Type} (stored : Reflection)
    {submissions : List (Submission σ)}
    (distinct : ((submissions.filterMap Submission.kept).map ClassEntry.name).Nodup) :
    ∃ standing, (stored.mergeAll (submissions.filterMap Submission.kept)).entries =
        standing ++ Submission.newcomers stored.names submissions ∧
      List.Forall₂ (fun held now => now.name = held.name ∧
        (Submission.NoneAccepted submissions held.name → now = held)) stored.entries standing := by
  have fresh : (((submissions.filterMap Submission.kept).filter fun entry =>
      entry.name ∉ stored.names).map ClassEntry.name).Nodup :=
    distinct.sublist (List.filter_sublist.map _)
  let grown (held : ClassEntry) : ClassEntry := held.mergeAll
    ((submissions.filterMap Submission.kept).filter fun entry => entry.name = held.name)
  have closed : (stored.mergeAll (submissions.filterMap Submission.kept)).entries =
      stored.entries.map grown ++ Submission.newcomers stored.names submissions := by
    rw [stored.entries_mergeAll_eq, entries_ofList fresh, Submission.filter_kept_eq_newcomers]
  refine ⟨stored.entries.map grown, closed, ?_⟩
  rw [List.forall₂_map_right_iff, List.forall₂_same]
  exact fun held _ => ⟨held.mergeAll_name _, Submission.mergeAll_kept⟩

namespace Session

variable {σ κ : Type}

/-- A collection has what is left of its submissions merged in. -/
theorem addReflection_session (session : Session σ κ) (outside : Outside σ κ)
    (bulk : Reflection) :
    (session.register (.addReflection bulk) outside).session =
      session.mergeClasses
        ((session.verifier.submissions bulk.entries outside.types).filterMap Submission.kept) := by
  have registered : (session.register (.addReflection bulk) outside).session =
      session.mergeClasses
        ((((session.verifier.filter bulk).run outside.types).value.kept bulk).entries) :=
    session.register_session (.addReflection bulk) outside
  rw [registered, Verifier.entries_filter]

/-- A bare name that is merged in changes nothing where a class of that name is stored. -/
theorem mergeClasses_toMinimal (session : Session σ κ) {entry : ClassEntry}
    (known : entry.name ∈ session.config.reflection.names) :
    session.mergeClasses [entry.toMinimal] = session := by
  obtain ⟨held, found⟩ := Reflection.exists_get?_of_mem_names known
  have unchanged : session.config.reflection.mergeAll [entry.toMinimal] =
      session.config.reflection :=
    Reflection.ext_entries (mergeOrAppend_of_find? found (held.merge_toMinimal entry))
  unfold mergeClasses
  rw [unchanged]

/-- Class entries that fail verification do not disturb what is stored. One that is submitted alone
changes nothing if it is rejected. If it is downgraded, it changes nothing where its class is
stored, and otherwise brings its bare name to the end. A collection changes nothing but the classes:
those stored before stay in their places, each of them exactly as it was unless the entry of its
name was accepted, and after them come the accepted and the downgraded entries of other names, in
order, the downgraded ones by their bare names. -/
theorem failed_classes_disturb_nothing (session : Session σ κ) (outside : Outside σ κ)
    (entry : ClassEntry) (bulk : Reflection) :
    let stored := session.config.reflection
    let single := session.register (.addClass entry) outside
    let whole := session.register (.addReflection bulk) outside
    let submissions := session.verifier.submissions bulk.entries outside.types
    (single.reply = .outcome .rejected → single.session = session) ∧
    (single.reply = .outcome .downgraded →
      (entry.name ∈ stored.names → single.session = session) ∧
      (entry.name ∉ stored.names → ∃ after : Reflection,
        single.session = { session with config := { session.config with reflection := after } } ∧
        after.entries = stored.entries ++ [{ name := entry.name }])) ∧
    submissions.map Submission.entry = bulk.entries ∧
    whole.reply = .survivors (.ofOutcomes bulk (submissions.map Submission.outcome)) ∧
    ∃ (after : Reflection) (standing : List ClassEntry),
      whole.session = { session with config := { session.config with reflection := after } } ∧
      after.entries = standing ++ Submission.newcomers stored.names submissions ∧
      List.Forall₂ (fun held now => now.name = held.name ∧
        (Submission.NoneAccepted submissions held.name → now = held)) stored.entries standing := by
  intro stored single whole submissions
  have told : single.reply = .outcome (session.submission outside entry).outcome :=
    session.addClass_reply outside entry
  have left : single.session =
      session.mergeClasses (session.submission outside entry).kept.toList :=
    session.addClass_session outside entry
  have listed : submissions.map Submission.entry = bulk.entries :=
    session.verifier.map_entry_submissions bulk.entries outside.types
  refine ⟨fun refused => ?rejected, fun stripped => ?downgraded, listed,
    session.addReflection_reply outside bulk, ?collection⟩
  case rejected =>
    have outcome : (session.submission outside entry).outcome = .rejected :=
      Reply.outcome.inj (told.symm.trans refused)
    rw [left, Submission.kept, outcome]
    rfl
  case downgraded =>
    have outcome : (session.submission outside entry).outcome = .downgraded :=
      Reply.outcome.inj (told.symm.trans stripped)
    have bare : (session.submission outside entry).kept = some entry.toMinimal := by
      rw [Submission.kept, outcome]
      rfl
    rw [left, bare, Option.toList_some]
    refine ⟨session.mergeClasses_toMinimal, fun fresh => ⟨_, rfl, ?_⟩⟩
    exact mergeOrAppend_of_not_mem fresh
  case collection =>
    have distinct : ((submissions.filterMap Submission.kept).map ClassEntry.name).Nodup := by
      rw [← session.verifier.entries_filter bulk outside.types]
      exact Reflection.nodup _
    obtain ⟨standing, entries, unchanged⟩ := stored.exists_standing distinct
    exact ⟨_, standing, session.addReflection_session outside bulk, entries, unchanged⟩

end Session

end ImageConfig
