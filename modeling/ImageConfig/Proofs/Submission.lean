import Mathlib.Data.List.Basic
import ImageConfig.Proofs.Listing
import ImageConfig.Proofs.Run

/-!
# Submissions of class entries

Class entries are submitted alone or in a collection. Either way each of them is classified by
itself, in the state in which the entries before it left the type system, so a submission is an
entry together with that state. The outcome follows from the answers of the two checks
(`accepted_iff`, `typeHolds_iff`), and what a collection leaves after verification is what its
submissions leave one by one (`entries_filter`). The classes of a session are therefore what is left
of its submissions, merged in order (`reflection_ending`).
-/

namespace ImageConfig

/-- A class entry at the moment at which its classification begins. -/
structure Submission (σ : Type) where
  /-- What is submitted. -/
  entry : ClassEntry
  /-- How it is verified. -/
  verifier : Verifier σ
  /-- State of the type system. -/
  state : σ

namespace Submission

variable {σ : Type}

/-- The lookup of the name finds a type, and the type-level check of that type holds. -/
def TypeHolds (submission : Submission σ) : Prop :=
  (submission.verifier.typeAnswer submission.entry.name submission.state).1 = true

/-- The lookup that follows the check of the type finds a type as well, and the member-level check
of that type holds. -/
def MembersHold (submission : Submission σ) : Prop :=
  (submission.verifier.memberAnswer submission.entry
    (submission.verifier.typeAnswer submission.entry.name submission.state).2).1 = true

/-- What becomes of the entry. -/
def outcome (submission : Submission σ) : Outcome :=
  ((submission.verifier.classify submission.entry).run submission.state).value

/-- What the entry counts for. -/
def kept (submission : Submission σ) : Option ClassEntry :=
  submission.outcome.kept submission.entry

/-- An entry is accepted or downgraded exactly if its type holds. -/
theorem typeHolds_iff (submission : Submission σ) :
    submission.TypeHolds ↔
      submission.outcome = .accepted ∨ submission.outcome = .downgraded := by
  unfold TypeHolds outcome
  rw [Verifier.value_classify]
  split
  · split <;> simp [*]
  · simp [*]

/-- An entry is accepted exactly if its type holds and so do its members, where it names some. -/
theorem accepted_iff (submission : Submission σ) :
    submission.outcome = .accepted ↔
      submission.TypeHolds ∧
        (submission.entry.membersSpecified = true → submission.MembersHold) := by
  unfold TypeHolds MembersHold outcome
  rw [Verifier.value_classify]
  split
  · split
    · simp_all
    · simp_all
  · simp [*]

/-- The members of an accepted entry that lists any hold. -/
theorem membersHold_of_lists {submission : Submission σ} {item : Item}
    (accepted : submission.outcome = .accepted) (listed : submission.entry.Lists item)
    (member : item.isMember = true) : submission.MembersHold :=
  ((accepted_iff submission).mp accepted).2
    (ClassEntry.membersSpecified_of_lists listed member)

/-- Something of an entry is left exactly if its type holds, and it has the name of the entry. -/
theorem exists_kept_iff (submission : Submission σ) (name : String) :
    (∃ left, submission.kept = some left ∧ left.name = name) ↔
      submission.entry.name = name ∧
        (submission.outcome = .accepted ∨ submission.outcome = .downgraded) := by
  unfold kept
  cases submission.outcome <;> simp [Outcome.kept]

/-- An item is left of an entry exactly if the entry lists it and is accepted. -/
theorem exists_kept_lists_iff (submission : Submission σ) (name : String) (item : Item) :
    (∃ left, submission.kept = some left ∧ left.name = name ∧ left.Lists item) ↔
      submission.entry.name = name ∧ submission.outcome = .accepted ∧
        submission.entry.Lists item := by
  unfold kept
  cases submission.outcome <;> simp [Outcome.kept, ClassEntry.not_lists_toMinimal]

/-- The names that are left are some of those submitted, in the same order. -/
theorem names_filterMap_kept (submissions : List (Submission σ)) :
    ((submissions.filterMap kept).map ClassEntry.name).Sublist
      (submissions.map fun submission => submission.entry.name) := by
  induction submissions with
  | nil => exact List.Sublist.refl _
  | cons first rest hyp =>
    cases left : first.kept with
    | none =>
      rw [List.filterMap_cons_none left]
      exact hyp.cons _
    | some entry =>
      have name : entry.name = first.entry.name := Outcome.name_of_kept left
      rw [List.filterMap_cons_some left, List.map_cons, List.map_cons, name]
      exact hyp.cons_cons _

/-- Of submissions that are all accepted, everything is left. -/
theorem filterMap_kept_of_accepted {submissions : List (Submission σ)}
    (all : ∀ submission ∈ submissions, submission.outcome = .accepted) :
    submissions.filterMap kept = submissions.map entry := by
  rw [← List.filterMap_eq_map']
  refine List.filterMap_congr fun submission among => ?_
  rw [kept, all submission among, Outcome.kept]

/-- What is left of submissions is what their outcomes leave of their entries. -/
theorem filterMap_zip_outcome (submissions : List (Submission σ)) :
    ((submissions.map entry).zip (submissions.map outcome)).filterMap
        (fun pair => pair.2.kept pair.1) = submissions.filterMap kept := by
  rw [List.zip_map', List.filterMap_map]
  rfl

end Submission

namespace Verifier

variable {σ : Type}

/-- The listed entries, each in the state in which those before it leave the type system. -/
def submissions (verifier : Verifier σ) : List ClassEntry → σ → List (Submission σ)
  | [], _ => []
  | entry :: rest, state =>
    ⟨entry, verifier, state⟩ ::
      verifier.submissions rest ((verifier.classify entry).run state).after

/-- What is submitted is what was listed. -/
theorem map_entry_submissions (verifier : Verifier σ) (entries : List ClassEntry) (state : σ) :
    (verifier.submissions entries state).map Submission.entry = entries := by
  induction entries generalizing state with
  | nil => rfl
  | cons entry rest hyp => rw [submissions, List.map_cons, hyp]

/-- Entries classified in order have the outcomes of their submissions. -/
theorem value_classifyAll (verifier : Verifier σ) (entries : List ClassEntry) (state : σ) :
    ((verifier.classifyAll entries).run state).value =
      (verifier.submissions entries state).map Submission.outcome := by
  induction entries generalizing state with
  | nil => rfl
  | cons entry rest hyp =>
    have tail := hyp ((verifier.classify entry).run state).after
    exact congrArg (((verifier.classify entry).run state).value :: ·) tail

/-- What is left of a collection after verification is what is left of each of its entries, also
where the collection itself is returned because nothing was dropped. -/
theorem entries_filter (verifier : Verifier σ) (bulk : Reflection) (state : σ) :
    (((verifier.filter bulk).run state).value.kept bulk).entries =
      (verifier.submissions bulk.entries state).filterMap Submission.kept := by
  have value : ((verifier.filter bulk).run state).value =
      .ofOutcomes bulk ((verifier.submissions bulk.entries state).map Submission.outcome) :=
    congrArg (Survivors.ofOutcomes bulk) (verifier.value_classifyAll bulk.entries state)
  have listed := verifier.map_entry_submissions bulk.entries state
  rw [value]
  generalize verifier.submissions bulk.entries state = submissions at listed ⊢
  unfold Survivors.ofOutcomes
  split
  · rename_i all
    rw [List.all_map, List.all_eq_true] at all
    have accepted : ∀ submission ∈ submissions, submission.outcome = .accepted :=
      fun submission among => beq_iff_eq.mp (all submission among)
    rw [Submission.filterMap_kept_of_accepted accepted, listed]
    rfl
  · have distinct : ((submissions.filterMap Submission.kept).map ClassEntry.name).Nodup := by
      refine (Submission.names_filterMap_kept submissions).nodup ?_
      have names := bulk.nodup
      rwa [← listed, List.map_map] at names
    rw [← listed, Submission.filterMap_zip_outcome]
    exact Reflection.entries_ofList distinct

end Verifier

namespace Session

variable {σ κ : Type}

/-- The class entries that a command submits. -/
def submitted (session : Session σ κ) (outside : Outside σ κ) :
    Command σ κ → List (Submission σ)
  | .register (.addClass entry) => [⟨entry, session.verifier, outside.types⟩]
  | .register (.addReflection bulk) => session.verifier.submissions bulk.entries outside.types
  | _ => []

/-- What a command adds to the classes is what is left of its submissions. -/
theorem classes_absorbed (session : Session σ κ) (outside : Outside σ κ)
    (command : Command σ κ) :
    (session.absorbed outside command).flatMap Notification.classes =
      (session.submitted outside command).filterMap Submission.kept := by
  cases command with
  | setTypeSystem | attach | detach => rfl
  | register registration =>
    cases registration with
    | addClass entry =>
      let submission : Submission σ := ⟨entry, session.verifier, outside.types⟩
      have verdict : session.verdict (.addClass entry) outside =
          .ofOutcome entry submission.outcome := session.verdict_addClass entry outside
      have left : submission.outcome.kept entry = submission.kept := rfl
      rw [absorbed, verdict, Verdict.ofOutcome, left]
      change _ = [submission].filterMap Submission.kept
      cases kept : submission.kept with
      | none =>
        rw [List.filterMap_cons_none kept]
        rfl
      | some entry =>
        rw [List.filterMap_cons_some kept]
        rfl
    | addReflection bulk =>
      have left := session.verifier.entries_filter bulk outside.types
      exact (List.append_nil _).trans left
    | addProxy interfaces verify =>
      rw [absorbed, verdict_addProxy, Verdict.ofCheck]
      split <;> rfl
    | addResources | addResource | registerResource | initializeAt | initializeTypes => rfl

/-- What a run adds to the classes is what is left of its submissions, in order. -/
theorem classes_gather (session : Session σ κ) (outside : Outside σ κ)
    (commands : List (Command σ κ)) :
    (session.gather absorbed outside commands).flatMap Notification.classes =
      (session.gather submitted outside commands).filterMap Submission.kept := by
  induction commands generalizing session outside with
  | nil => rfl
  | cons command rest hyp =>
    rw [gather, gather, List.flatMap_append, List.filterMap_append, classes_absorbed, hyp]

/-- The classes at the end of a run are those before it and what is left of its submissions, merged
in order. -/
theorem reflection_ending (session : Session σ κ) (outside : Outside σ κ)
    (commands : List (Command σ κ)) :
    (session.ending outside commands).1.config.reflection =
      session.config.reflection.mergeAll
        ((session.gather submitted outside commands).filterMap Submission.kept) := by
  rw [config_ending, Configuration.reflection_absorbAll, classes_gather]

end Session

end ImageConfig
