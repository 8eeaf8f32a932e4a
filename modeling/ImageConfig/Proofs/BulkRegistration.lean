import ImageConfig.Proofs.Submission

/-!
# Collections and single entries

A collection of class entries is verified as a whole before anything of it is merged, and where
nothing is dropped it is not even built anew. Entries that are submitted one by one are verified and
merged in turn. The two come to the same. Merging asks nothing, so each entry is verified in the
same state of the type system either way (`run_addClasses`); and since the names of a collection are
distinct, building what is left of it and merging that is merging what is left entry by entry.
-/

namespace ImageConfig.Session

variable {σ κ : Type}

/-- The session with class entries merged into what it has collected. -/
def mergeClasses (session : Session σ κ) (entries : List ClassEntry) : Session σ κ :=
  { session with
    config := { session.config with
      reflection := session.config.reflection.mergeAll entries } }

/-- The submission of a single entry to a session. -/
def submission (session : Session σ κ) (outside : Outside σ κ) (entry : ClassEntry) :
    Submission σ :=
  ⟨entry, session.verifier, outside.types⟩

/-- Merging two lists one after the other is merging their concatenation. -/
theorem mergeClasses_append (session : Session σ κ) (first second : List ClassEntry) :
    session.mergeClasses (first ++ second) = (session.mergeClasses first).mergeClasses second := by
  unfold mergeClasses
  rw [Reflection.mergeAll_append]

/-- An entry that is submitted alone has what is left of it merged in. -/
theorem addClass_session (session : Session σ κ) (outside : Outside σ κ) (entry : ClassEntry) :
    (session.register (.addClass entry) outside).session =
      session.mergeClasses (session.submission outside entry).kept.toList := by
  have verdict : session.verdict (.addClass entry) outside =
      .ofOutcome entry (session.submission outside entry).outcome :=
    session.verdict_addClass entry outside
  rw [register_session, verdict]
  unfold Verdict.ofOutcome Submission.kept
  cases (session.submission outside entry).outcome with
  | accepted => rfl
  | downgraded => rfl
  | rejected => rfl

/-- The caller is told the outcome of an entry that is submitted alone. -/
theorem addClass_reply (session : Session σ κ) (outside : Outside σ κ) (entry : ClassEntry) :
    (session.register (.addClass entry) outside).reply =
      .outcome (session.submission outside entry).outcome := by
  have verdict : session.verdict (.addClass entry) outside =
      .ofOutcome entry (session.submission outside entry).outcome :=
    session.verdict_addClass entry outside
  rw [register_reply, verdict]
  unfold Verdict.ofOutcome
  cases (session.submission outside entry).outcome with
  | accepted => rfl
  | downgraded => rfl
  | rejected => rfl

/-- Entries that are submitted one by one, each in the state in which those before it leave the
type system: what is left of them is merged in, the callers are told the outcomes, and the type
system is asked what it is asked when they are classified in a row. -/
theorem run_addClasses (session : Session σ κ) (outside : Outside σ κ) (entries : List ClassEntry) :
    let singly := entries.map fun entry => Command.register (.addClass entry)
    let submissions := session.verifier.submissions entries outside.types
    let classified := (session.verifier.classifyAll entries).run outside.types
    (session.ending outside singly).1 =
      session.mergeClasses (submissions.filterMap Submission.kept) ∧
    (session.steps outside singly).map Performed.reply =
      (submissions.map Submission.outcome).map .outcome ∧
    (session.ending outside singly).2.types = classified.after ∧
    (session.events outside singly).filter Event.ofVerification = classified.events := by
  induction entries generalizing session outside with
  | nil => exact ⟨rfl, rfl, rfl, rfl⟩
  | cons entry rest hyp =>
    let first := session.register (.addClass entry) outside
    have left : first.session = _ := session.addClass_session outside entry
    have verifier : first.session.verifier = session.verifier := by
      rw [left]
      rfl
    have types : first.outside.types =
        ((session.verifier.classify entry).run outside.types).after :=
      session.register_types (.addClass entry) outside
    have asked : first.events.filter Event.ofVerification =
        ((session.verifier.classify entry).run outside.types).events :=
      (session.register_verification (.addClass entry) outside).trans (List.append_nil _)
    obtain ⟨merged, replies, after, events⟩ := hyp first.session first.outside
    rw [verifier, types] at merged replies after events
    refine ⟨?merged, ?replies, ?after, ?events⟩
    case merged =>
      have next : (session.verifier.submissions (entry :: rest) outside.types).filterMap
            Submission.kept =
          (session.submission outside entry).kept.toList ++ (session.verifier.submissions rest
            ((session.verifier.classify entry).run outside.types).after).filterMap
              Submission.kept := by
        rw [Verifier.submissions, List.filterMap_eq_flatMap_toList, List.flatMap_cons,
          ← List.filterMap_eq_flatMap_toList]
        rfl
      rw [List.map_cons, ending_cons, next, mergeClasses_append, ← left]
      exact merged
    case replies =>
      have told : first.reply = _ := session.addClass_reply outside entry
      rw [List.map_cons, steps, List.map_cons, Verifier.submissions, List.map_cons, List.map_cons]
      exact congrArg₂ List.cons told replies
    case after =>
      rw [List.map_cons, ending_cons]
      exact after
    case events =>
      rw [List.map_cons, Session.events, steps, List.flatMap_cons, List.filter_append]
      have rows := congrArg₂ (· ++ ·) asked events
      refine rows.trans ?_
      rw [Verifier.classifyAll]
      simp only [Traced.run_bind, Traced.run_pure, List.append_nil]

/-- Submitting a collection and submitting its entries one by one, in order, lead to the same
session, ask the type system the same questions with the same reports of failed checks in between,
and leave it in the same state. The collection that is given back holds what the single outcomes
leave of each entry: an accepted entry as it is, a downgraded one by its name, a rejected one not at
all. -/
theorem addReflection_eq_addClasses (session : Session σ κ) (outside : Outside σ κ)
    (bulk : Reflection) :
    let singly := bulk.entries.map fun entry => Command.register (.addClass entry)
    let whole := session.register (.addReflection bulk) outside
    (session.ending outside singly).1 = whole.session ∧
    (session.ending outside singly).2.types = whole.outside.types ∧
    (session.events outside singly).filter Event.ofVerification =
      whole.events.filter Event.ofVerification ∧
    ∃ outcomes survivors,
      (session.steps outside singly).map Performed.reply = outcomes.map .outcome ∧
      whole.reply = .survivors survivors ∧
      (survivors.kept bulk).entries =
        (bulk.entries.zip outcomes).filterMap fun pair => pair.2.kept pair.1 := by
  intro singly whole
  let submissions := session.verifier.submissions bulk.entries outside.types
  let survivors := ((session.verifier.filter bulk).run outside.types).value
  have listed : submissions.map Submission.entry = bulk.entries :=
    session.verifier.map_entry_submissions bulk.entries outside.types
  have left : (survivors.kept bulk).entries = submissions.filterMap Submission.kept :=
    session.verifier.entries_filter bulk outside.types
  have stored : whole.session = session.mergeClasses (survivors.kept bulk).entries :=
    session.register_session (.addReflection bulk) outside
  have types : whole.outside.types =
      ((session.verifier.classifyAll bulk.entries).run outside.types).after :=
    session.register_types (.addReflection bulk) outside
  have asked : whole.events.filter Event.ofVerification =
      ((session.verifier.classifyAll bulk.entries).run outside.types).events := by
    have judged := session.register_verification (.addReflection bulk) outside
    exact judged.trans ((List.append_nil _).trans (List.append_nil _))
  obtain ⟨merged, replies, after, events⟩ := session.run_addClasses outside bulk.entries
  refine ⟨?_, after.trans types.symm, events.trans asked.symm,
    submissions.map Submission.outcome, survivors, replies, ?_, ?_⟩
  · rw [stored, left]
    exact merged
  · exact session.register_reply (.addReflection bulk) outside
  · rw [left, ← listed, List.zip_map', List.filterMap_map]
    rfl

end ImageConfig.Session
