import ImageConfig.Proofs.FailedClasses
import ImageConfig.Proofs.Retention

/-!
# What is left of a collection

A collection of which every entry is accepted is given back as it is, without being built anew.
Nothing but the cost depends on this. Building it anew from the outcomes would give the same
collection, with its order and its repeats, and whenever an entry fails, what is left differs from
the collection in more than its order (`Session.addReflection_unchanged_iff`): a rejected entry is
missing, and a downgraded one has lost the members for which it was checked.

What is left of a collection has nothing to lose. Against a steady type system, each of its entries
is accepted when it is submitted again (`Submission.accepted_of_kept`): an accepted entry is checked
on the same content, and a bare name is not checked for members at all. So to submit what is left
changes neither it nor the session (`Session.filtered_again`).
-/

namespace ImageConfig

/-! ## Comparing what is left with what was submitted -/

/-- An entry that names members to be checked holds more than its name. -/
theorem ClassEntry.isMinimal_of_membersSpecified {entry : ClassEntry}
    (named : entry.membersSpecified = true) : entry.isMinimal = false := by
  obtain ⟨name, methods, fields, ⟨flags, distinct⟩⟩ := entry
  cases methods with
  | cons => rfl
  | nil =>
    cases fields with
    | cons => rfl
    | nil =>
      cases flags with
      | cons => rfl
      | nil => cases named

/-- An entry that requests no more than its bare name is minimal. -/
theorem ClassEntry.isMinimal_of_sameRequest_toMinimal {entry : ClassEntry}
    (same : entry.toMinimal.sameRequest entry = true) : entry.isMinimal = true := by
  obtain ⟨name, methods, fields, ⟨flags, distinct⟩⟩ := entry
  simp only [sameRequest, toMinimal, OrderedSet.sameMembers, OrderedSet.size, Bool.and_eq_true,
    beq_iff_eq] at same
  obtain ⟨⟨⟨_, rfl⟩, rfl⟩, size, _⟩ := same
  obtain rfl : flags = [] := List.eq_nil_of_length_eq_zero size.symm
  rfl

/-- A collection requests the same as itself. -/
theorem Reflection.sameRequests_self (reflection : Reflection) :
    reflection.sameRequests reflection = true := by
  have flags (entry : ClassEntry) : entry.flags.sameMembers entry.flags = true := by
    simp [OrderedSet.sameMembers, OrderedSet.contains, OrderedSet.mem_def]
  have each : ∀ entry ∈ reflection.entries,
      (reflection.get? entry.name).any entry.sameRequest = true := by
    intro entry among
    rw [get?_of_mem among]
    simp [ClassEntry.sameRequest, flags]
  simpa [sameRequests] using each

namespace Submission

variable {σ : Type}

/-- An entry is downgraded only if it names members to be checked. -/
theorem membersSpecified_of_downgraded {submission : Submission σ}
    (stripped : submission.outcome = .downgraded) : submission.entry.membersSpecified = true := by
  by_contra unnamed
  have holds : submission.TypeHolds := submission.typeHolds_iff.mpr (Or.inr stripped)
  have accepted : submission.outcome = .accepted :=
    submission.accepted_iff.mpr ⟨holds, fun named => absurd named unnamed⟩
  cases stripped.symm.trans accepted

/-- An entry is accepted if something is left of it that requests the same. -/
theorem accepted_of_sameRequest {submission : Submission σ} {left : ClassEntry}
    (kept : submission.kept = some left) (same : left.sameRequest submission.entry = true) :
    submission.outcome = .accepted := by
  rw [Submission.kept] at kept
  cases outcome : submission.outcome with
  | accepted => rfl
  | downgraded =>
    rw [outcome] at kept
    obtain rfl : submission.entry.toMinimal = left := Option.some.inj kept
    have minimal := ClassEntry.isMinimal_of_sameRequest_toMinimal same
    have more := ClassEntry.isMinimal_of_membersSpecified (membersSpecified_of_downgraded outcome)
    exact absurd minimal (Bool.not_eq_true _ ▸ more)
  | rejected =>
    rw [outcome] at kept
    cases kept

/-- Of submissions that are all accepted, the whole collection is left. -/
theorem ofOutcomes_of_accepted {submissions : List (Submission σ)} (bulk : Reflection)
    (accepted : ∀ submission ∈ submissions, submission.outcome = .accepted) :
    Survivors.ofOutcomes bulk (submissions.map outcome) = .unchanged := by
  refine if_pos (List.all_eq_true.mpr fun outcome among => ?_)
  obtain ⟨submission, submitted, rfl⟩ := List.mem_map.mp among
  exact beq_iff_eq.mpr (accepted submission submitted)

/-- Every submission is accepted if what is left of them requests the same as what was submitted,
in whatever order. -/
theorem accepted_of_sameRequests {submissions : List (Submission σ)} {bulk left : Reflection}
    (listed : submissions.map entry = bulk.entries)
    (kept : left.entries = submissions.filterMap kept) (same : left.sameRequests bulk = true) :
    ∀ submission ∈ submissions, submission.outcome = .accepted := by
  obtain ⟨sizes, each⟩ := Bool.and_eq_true_iff.mp same
  rw [kept, List.all_eq_true] at each
  have lengths : (submissions.filterMap Submission.kept).length = submissions.length := by
    have entries : (submissions.map entry).length = submissions.length := List.length_map entry
    rw [← kept, ← entries, listed]
    exact beq_iff_eq.mp sizes
  have some := List.filterMap_length_eq_length.mp lengths
  intro submission among
  obtain ⟨entry, whole⟩ := Option.isSome_iff_exists.mp (some submission among)
  have name : entry.name = submission.entry.name := Outcome.name_of_kept whole
  have stored : submission.entry ∈ bulk.entries := listed ▸ List.mem_map_of_mem among
  have requested := each entry (List.mem_filterMap.mpr ⟨submission, among, whole⟩)
  rw [name, Reflection.get?_of_mem stored] at requested
  exact accepted_of_sameRequest whole requested

end Submission

namespace Session

variable {σ κ : Type}

/-- What is left of a collection is what is left of each of its submissions. -/
theorem entries_survivors (session : Session σ κ) (outside : Outside σ κ) (bulk : Reflection) :
    let submissions := session.verifier.submissions bulk.entries outside.types
    ((Survivors.ofOutcomes bulk (submissions.map Submission.outcome)).kept bulk).entries =
      submissions.filterMap Submission.kept := by
  intro submissions
  have value := session.verifier.value_classifyAll bulk.entries outside.types
  have left := session.verifier.entries_filter bulk outside.types
  exact (congrArg (fun outcomes => ((Survivors.ofOutcomes bulk outcomes).kept bulk).entries)
    value).symm.trans left

/-- A collection is given back as it is exactly if each of its entries was accepted, exactly if what
is given back equals it, and exactly if what is given back requests the same of the same classes in
whatever order. Where it is given back as it is, the collection built anew from what the outcomes
leave of each entry equals it too, order and repeats included. -/
theorem addReflection_unchanged_iff (session : Session σ κ) (outside : Outside σ κ)
    (bulk : Reflection) :
    let submissions := session.verifier.submissions bulk.entries outside.types
    let outcomes := submissions.map Submission.outcome
    let rebuilt := Reflection.ofList
      ((bulk.entries.zip outcomes).filterMap fun pair => pair.2.kept pair.1)
    submissions.map Submission.entry = bulk.entries ∧
    ∃ survivors, (session.register (.addReflection bulk) outside).reply = .survivors survivors ∧
      (survivors = .unchanged ↔ ∀ submission ∈ submissions, submission.outcome = .accepted) ∧
      (survivors = .unchanged ↔ survivors.kept bulk = bulk) ∧
      (survivors = .unchanged ↔ (survivors.kept bulk).sameRequests bulk = true) ∧
      (survivors = .unchanged → rebuilt = bulk) := by
  intro submissions outcomes rebuilt
  let survivors := Survivors.ofOutcomes bulk outcomes
  have listed : submissions.map Submission.entry = bulk.entries :=
    session.verifier.map_entry_submissions bulk.entries outside.types
  have kept : (survivors.kept bulk).entries = submissions.filterMap Submission.kept :=
    session.entries_survivors outside bulk
  have whole : (∀ submission ∈ submissions, submission.outcome = .accepted) →
      survivors = .unchanged := Submission.ofOutcomes_of_accepted bulk
  have equal : survivors = .unchanged → survivors.kept bulk = bulk := by
    intro unchanged
    rw [unchanged]
    rfl
  have same : survivors.kept bulk = bulk → (survivors.kept bulk).sameRequests bulk = true := by
    intro equal
    rw [equal]
    exact bulk.sameRequests_self
  have accepted : (survivors.kept bulk).sameRequests bulk = true →
      ∀ submission ∈ submissions, submission.outcome = .accepted :=
    Submission.accepted_of_sameRequests listed kept
  refine ⟨listed, survivors, session.addReflection_reply outside bulk,
    ⟨fun unchanged => accepted (same (equal unchanged)), whole⟩,
    ⟨equal, fun kept => whole (accepted (same kept))⟩,
    ⟨fun unchanged => same (equal unchanged), fun requested => whole (accepted requested)⟩,
    fun unchanged => ?_⟩
  -- Every entry is left, and entries of distinct names are collected as they stand.
  have everything := Submission.filterMap_kept_of_accepted (accepted (same (equal unchanged)))
  have entries : (bulk.entries.zip outcomes).filterMap (fun pair => pair.2.kept pair.1) =
      bulk.entries := by
    rw [← listed, Submission.filterMap_zip_outcome, everything]
  exact (congrArg Reflection.ofList entries).trans bulk.empty_merge

end Session

/-! ## Submitting once more what is left -/

/-- The submissions of a list of entries are verified alike. -/
theorem Verifier.verifier_of_mem_submissions {σ : Type} {verifier : Verifier σ}
    {entries : List ClassEntry} {state : σ} {submission : Submission σ}
    (among : submission ∈ verifier.submissions entries state) :
    submission.verifier = verifier := by
  induction entries generalizing state with
  | nil => cases among
  | cons entry rest hyp =>
    cases List.mem_cons.mp among with
    | inl first => rw [first]
    | inr later => exact hyp later

/-- Against a steady type system, what is left of an entry is accepted when it is submitted, at
whatever time: an accepted entry is checked as before, and a bare name is not checked for
members. -/
theorem Submission.accepted_of_kept {σ : Type} {before again : Submission σ}
    (steady : before.verifier.system.Steady) (verifier : again.verifier = before.verifier)
    (left : before.kept = some again.entry) : again.outcome = .accepted := by
  obtain ⟨entry, _, state⟩ := again
  subst verifier
  rw [kept] at left
  cases outcome : before.outcome with
  | accepted =>
    rw [outcome] at left
    obtain rfl : before.entry = entry := Option.some.inj left
    exact (before.verifier.classify_steady steady before.entry state before.state).trans outcome
  | downgraded =>
    rw [outcome] at left
    obtain rfl : before.entry.toMinimal = entry := Option.some.inj left
    have held : before.TypeHolds := before.typeHolds_iff.mpr (Or.inr outcome)
    have same := steady.type before.entry.name before.verifier.debug state before.state
    exact (accepted_iff _).mpr ⟨same.trans held, Bool.noConfusion⟩
  | rejected =>
    rw [outcome] at left
    cases left

namespace Session

variable {σ κ : Type}

/-- Merging entries in once more changes nothing. -/
theorem mergeClasses_again (session : Session σ κ) (entries : List ClassEntry) :
    (session.mergeClasses entries).mergeClasses entries = session.mergeClasses entries := by
  have unchanged : (session.config.reflection.mergeAll entries).mergeAll entries =
      session.config.reflection.mergeAll entries :=
    Reflection.mergeAll_of_held fun _ among => Reflection.get?_mergeAll_of_mem _ among
  unfold mergeClasses
  rw [unchanged]

/-- Against a steady type system, submitting again what is left of a collection has every entry of
it accepted, gives it back as it is, and leaves the whole session as the first submission did. -/
theorem filtered_again {session : Session σ κ} (steady : session.system.Steady)
    (outside : Outside σ κ) (bulk : Reflection) :
    let first := session.register (.addReflection bulk) outside
    ∃ survivors, first.reply = .survivors survivors ∧
      let left := survivors.kept bulk
      let second := first.session.register (.addReflection left) first.outside
      (∀ submission ∈ first.session.verifier.submissions left.entries first.outside.types,
        submission.outcome = .accepted) ∧
      second.reply = .survivors .unchanged ∧ second.session = first.session := by
  intro first
  let submissions := session.verifier.submissions bulk.entries outside.types
  let survivors := Survivors.ofOutcomes bulk (submissions.map Submission.outcome)
  refine ⟨survivors, session.addReflection_reply outside bulk, ?_⟩
  intro left second
  let resubmitted := first.session.verifier.submissions left.entries first.outside.types
  have kept : left.entries = submissions.filterMap Submission.kept :=
    session.entries_survivors outside bulk
  have stored : first.session = session.mergeClasses left.entries := by
    rw [kept]
    exact session.addReflection_session outside bulk
  have verifier : first.session.verifier = session.verifier := by
    rw [stored]
    rfl
  have listed : resubmitted.map Submission.entry = left.entries :=
    first.session.verifier.map_entry_submissions left.entries first.outside.types
  have accepted : ∀ submission ∈ resubmitted, submission.outcome = .accepted := by
    intro again among
    have entry : again.entry ∈ submissions.filterMap Submission.kept := by
      rw [← kept, ← listed]
      exact List.mem_map_of_mem among
    obtain ⟨before, submitted, whole⟩ := List.mem_filterMap.mp entry
    have first := Verifier.verifier_of_mem_submissions submitted
    have later := (Verifier.verifier_of_mem_submissions among).trans verifier
    exact Submission.accepted_of_kept (first ▸ steady) (later.trans first.symm) whole
  refine ⟨accepted, ?told, ?unchanged⟩
  case told =>
    exact (first.session.addReflection_reply first.outside left).trans
      (congrArg Reply.survivors (Submission.ofOutcomes_of_accepted left accepted))
  case unchanged =>
    have merged : second.session =
        first.session.mergeClasses (resubmitted.filterMap Submission.kept) :=
      first.session.addReflection_session first.outside left
    rw [merged, Submission.filterMap_kept_of_accepted accepted, listed, stored,
      mergeClasses_again]

/-- Of a plugin whose members do not verify only the name is left, a service stays with its repeated
method, and a missing type is dropped. What is left is submitted again. -/
theorem plugin_filtered_again :
    let first := pluginSession.register (.addReflection pluginBulk) ⟨0, 0⟩
    let left : Reflection := .ofList
      [{ name := "app.Plugin" },
        { name := "app.Service", methods := [{ name := "run" }, { name := "run" }] }]
    let second := first.session.register (.addReflection left) first.outside
    pluginSession.system.Steady ∧ first.reply = .survivors (.reduced left) ∧
    (∀ submission ∈ first.session.verifier.submissions left.entries first.outside.types,
      submission.outcome = .accepted) ∧
    second.reply = .survivors .unchanged ∧ second.session = first.session := by
  intro first left second
  have steady : pluginSession.system.Steady := TypeSystem.steady_known pluginTypes
  have told : first.reply = .survivors (.reduced left) := by decide +kernel
  obtain ⟨survivors, answered, again⟩ := filtered_again steady ⟨0, 0⟩ pluginBulk
  obtain rfl : survivors = .reduced left := Reply.survivors.inj (answered.symm.trans told)
  exact ⟨steady, told, again⟩

end Session

end ImageConfig
