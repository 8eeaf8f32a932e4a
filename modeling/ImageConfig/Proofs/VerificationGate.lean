import ImageConfig.Proofs.Submission

/-!
# The verification gate

Nothing enters the classes of a session but through verification, and nothing that passed it is
lost. The statement below holds at the end of every run from a new session, with engines attached
and detached and type systems replaced on the way, and for type systems that answer the two lookups
of one classification differently: what counts is what they answered to the submission in question.
-/

namespace ImageConfig.Session

variable {σ κ : Type}

/-- A class is stored exactly if some submission of it was accepted or downgraded, which is to say
that its type held. An item is listed for it exactly if some accepted submission of it lists the
item; and if the item stands for members, the members of one such submission held. -/
theorem stored_iff_submitted (settings : Settings) (system : TypeSystem σ)
    (outside : Outside σ κ) (commands : List (Command σ κ)) :
    let opened : Session σ κ := Session.new settings system
    let stored := (opened.ending outside commands).1.config.reflection
    let submissions := opened.gather submitted outside commands
    (∀ name, name ∈ stored.names ↔
      ∃ submission ∈ submissions, submission.entry.name = name ∧
        (submission.outcome = .accepted ∨ submission.outcome = .downgraded)) ∧
    (∀ submission ∈ submissions,
      (submission.outcome = .accepted ∨ submission.outcome = .downgraded) ↔
        submission.TypeHolds) ∧
    (∀ name item, stored.Lists name item ↔
      ∃ submission ∈ submissions, submission.entry.name = name ∧
        submission.outcome = .accepted ∧ submission.entry.Lists item) ∧
    (∀ name item, stored.Lists name item → item.isMember = true →
      ∃ submission ∈ submissions, submission.entry.name = name ∧
        submission.entry.Lists item ∧ submission.TypeHolds ∧ submission.MembersHold) := by
  intro opened stored submissions
  have merged : stored = Reflection.mergeAll ∅ (submissions.filterMap Submission.kept) :=
    opened.reflection_ending outside commands
  have listed : ∀ name item, stored.Lists name item ↔
      ∃ submission ∈ submissions, submission.entry.name = name ∧
        submission.outcome = .accepted ∧ submission.entry.Lists item := by
    intro name item
    rw [merged, Reflection.lists_mergeAll]
    constructor
    · rintro (before | ⟨left, among, named, lists⟩)
      · exact absurd before (Reflection.not_lists_empty name item)
      · obtain ⟨submission, submitted, kept⟩ := List.mem_filterMap.mp among
        exact ⟨submission, submitted,
          (submission.exists_kept_lists_iff name item).mp ⟨left, kept, named, lists⟩⟩
    · rintro ⟨submission, submitted, accepted⟩
      obtain ⟨left, kept, named, lists⟩ :=
        (submission.exists_kept_lists_iff name item).mpr accepted
      exact Or.inr ⟨left, List.mem_filterMap.mpr ⟨submission, submitted, kept⟩, named, lists⟩
  refine ⟨fun name => ?_, fun submission _ => submission.typeHolds_iff.symm, listed,
    fun name item lists member => ?_⟩
  · rw [merged, Reflection.mem_names_mergeAll]
    constructor
    · rintro (before | ⟨left, among, named⟩)
      · exact absurd before List.not_mem_nil
      · obtain ⟨submission, submitted, kept⟩ := List.mem_filterMap.mp among
        exact ⟨submission, submitted,
          (submission.exists_kept_iff name).mp ⟨left, kept, named⟩⟩
    · rintro ⟨submission, submitted, counted⟩
      obtain ⟨left, kept, named⟩ := (submission.exists_kept_iff name).mpr counted
      exact Or.inr ⟨left, List.mem_filterMap.mpr ⟨submission, submitted, kept⟩, named⟩
  · obtain ⟨submission, submitted, named, accepted, lists⟩ := (listed name item).mp lists
    exact ⟨submission, submitted, named, lists, (submission.accepted_iff.mp accepted).1,
      Submission.membersHold_of_lists accepted lists member⟩

end ImageConfig.Session
