import Mathlib.Data.List.Basic
import ImageConfig.Session
import ImageConfig.Proofs.Contribution
import ImageConfig.Proofs.Verification

/-!
# Runs of a session

A run performs commands one after the other, from a session and a state of the other sides. What a
step does to the configuration is one absorption of what the verdict counts for, and what it causes
towards the engine is one notification. Over a run, the configuration at the end is what the
verdicts add up to (`config_ending`), and an attached engine is notified of all that they send
(`notifications_events`).
-/

namespace ImageConfig

namespace Event

/-- The notifications among events, in order, each as it was sent. -/
def notifications (events : List Event) : List Notification :=
  events.filterMap fun event => match event with
    | notified notification _ => some notification
    | _ => none

/-- The notifications among events, in order, each as far as the engine read it. -/
def received (events : List Event) : List Notification :=
  events.filterMap fun event => match event with
    | notified notification taken => some (notification.readTo taken)
    | _ => none

/-- The engine read the content that the event brings it to the end, if there is one. -/
def readWhole : Event → Bool
  | notified (.registerResource _ content) taken => content.length ≤ taken
  | _ => true

/-- The engine read every content to its end. -/
def ReadToEnd (events : List Event) : Prop := ∀ event ∈ events, event.readWhole = true

instance (events : List Event) : Decidable (ReadToEnd events) :=
  inferInstanceAs (Decidable (∀ event ∈ events, event.readWhole = true))

/-- Where every content is read to its end, what is received is what was sent. -/
theorem received_eq_notifications {events : List Event} (toEnd : ReadToEnd events) :
    received events = notifications events := by
  refine List.filterMap_congr fun event happened => ?_
  cases event with
  | notified notification taken =>
    cases notification with
    | registerResource name content =>
      have all : content.take taken = content :=
        List.take_of_length_le (of_decide_eq_true (toEnd _ happened))
      simp only [Notification.readTo, all]
    | _ => rfl
  | _ => rfl

/-- Notifications of events that follow one another follow one another. -/
theorem notifications_append (first second : List Event) :
    notifications (first ++ second) = notifications first ++ notifications second :=
  List.filterMap_append

/-- Lines in the log are no notifications. -/
theorem notifications_map_logged (diagnostics : List Diagnostic) :
    notifications (diagnostics.map logged) = [] := by
  refine List.filterMap_eq_nil_iff.mpr fun event happened => ?_
  obtain ⟨diagnostic, _, rfl⟩ := List.mem_map.mp happened
  rfl

/-- Verification sends no notification. -/
theorem notifications_of_verification {events : List Event}
    (ofKind : ∀ event ∈ events, event.ofVerification = true) : notifications events = [] := by
  refine List.filterMap_eq_nil_iff.mpr fun event happened => ?_
  have kind := ofKind event happened
  cases event with
  | notified notification taken => cases kind
  | _ => rfl

end Event

namespace Session

variable {σ κ : Type}

/-! ## One step -/

/-- The caller is told what the verdict says. -/
theorem settle_reply (session : Session σ κ) (verdict : Verdict) (outside : Outside σ κ) :
    (session.settle verdict outside).reply = verdict.reply := by
  cases verdict <;> rfl

/-- A verdict does not touch the type system. -/
theorem settle_types (session : Session σ κ) (verdict : Verdict) (outside : Outside σ κ) :
    (session.settle verdict outside).outside.types = outside.types := by
  cases verdict <;> rfl

/-- A verdict sends its notification, if it has one and an engine is attached. -/
theorem settle_notifications (session : Session σ κ) (verdict : Verdict)
    (outside : Outside σ κ) :
    Event.notifications (session.settle verdict outside).events =
      if session.engine.isSome then verdict.sent?.toList else [] := by
  cases verdict with
  | refused reply =>
    rw [show Verdict.sent? (.refused reply) = none from rfl, Option.toList_none, ite_self]
    rfl
  | accepted reply absorbed sent =>
    have conflicts : Event.notifications
        ((session.config.conflicts absorbed).map Event.logged) = [] :=
      Event.notifications_map_logged _
    rw [settle_accepted, Event.notifications_append, conflicts, List.nil_append]
    cases session.engine with
    | none => rfl
    | some engine =>
      have report := Event.notifications_map_logged
        ((engine.receive sent outside.engine).failure.toList.map
          (Diagnostic.forwardFailure sent.operation))
      rw [List.map_map] at report
      exact congrArg (sent :: ·) report

/-- The verdict on a registration. -/
def verdict (session : Session σ κ) (registration : Registration σ) (outside : Outside σ κ) :
    Verdict :=
  ((session.verifier.judge registration).run outside.types).value

/-- The verdict on an entry follows from its outcome. -/
theorem verdict_addClass (session : Session σ κ) (entry : ClassEntry) (outside : Outside σ κ) :
    session.verdict (.addClass entry) outside =
      .ofOutcome entry ((session.verifier.classify entry).run outside.types).value := rfl

/-- The verdict on a proxy follows from the check of its interfaces. -/
theorem verdict_addProxy (session : Session σ κ) (interfaces : Proxy) (verify : Bool)
    (outside : Outside σ κ) :
    session.verdict (.addProxy interfaces verify) outside =
      .ofCheck interfaces (!verify ||
        ((session.verifier.checkAll .interface interfaces).run outside.types).value) := by
  cases verify <;> rfl

/-- The caller of a registration is told what the verdict says. -/
theorem register_reply (session : Session σ κ) (registration : Registration σ)
    (outside : Outside σ κ) :
    (session.register registration outside).reply =
      (session.verdict registration outside).reply :=
  session.settle_reply _ _

/-- A registration changes nothing of a session but its configuration, which absorbs what the
verdict counts for. -/
theorem register_session (session : Session σ κ) (registration : Registration σ)
    (outside : Outside σ κ) :
    (session.register registration outside).session =
      { session with
        config := session.config.absorbAll
          (session.verdict registration outside).absorbed?.toList } := by
  have settled := session.settle_session (session.verdict registration outside)
    { outside with types := ((session.verifier.judge registration).run outside.types).after }
  refine settled.trans ?_
  cases session.verdict registration outside <;> rfl

/-- A registration leaves the type system as its verification does. -/
theorem register_types (session : Session σ κ) (registration : Registration σ)
    (outside : Outside σ κ) :
    (session.register registration outside).outside.types =
      ((session.verifier.judge registration).run outside.types).after :=
  session.settle_types _ _

/-- What a registration causes: what its verification does, and then what its verdict leads to. -/
theorem register_events (session : Session σ κ) (registration : Registration σ)
    (outside : Outside σ κ) :
    (session.register registration outside).events =
      ((session.verifier.judge registration).run outside.types).events ++
        (session.settle (session.verdict registration outside) { outside with
          types := ((session.verifier.judge registration).run outside.types).after }).events := rfl

/-- A registration sends the notification of its verdict, if an engine is attached. -/
theorem register_notifications (session : Session σ κ) (registration : Registration σ)
    (outside : Outside σ κ) :
    Event.notifications (session.register registration outside).events =
      if session.engine.isSome then (session.verdict registration outside).sent?.toList
      else [] := by
  have quiet := Event.notifications_of_verification
    (session.verifier.emits_judge registration outside.types)
  rw [register_events, Event.notifications_append, quiet, List.nil_append, settle_notifications]

/-- A verdict asks nothing and reports no failed check. -/
theorem settle_verification (session : Session σ κ) (verdict : Verdict) (outside : Outside σ κ) :
    (session.settle verdict outside).events.filter Event.ofVerification = [] := by
  rw [List.filter_eq_nil_iff]
  intro event happened
  cases verdict with
  | refused reply => exact absurd happened List.not_mem_nil
  | accepted reply absorbed sent =>
    rw [settle_accepted, List.mem_append] at happened
    cases happened with
    | inl conflict =>
      obtain ⟨diagnostic, among, rfl⟩ := List.mem_map.mp conflict
      obtain ⟨_, _, _, rfl⟩ := Configuration.eq_phaseConflict_of_mem_conflicts among
      exact Bool.false_ne_true
    | inr forwarded =>
      cases attached : session.engine with
      | none =>
        rw [attached] at forwarded
        exact absurd forwarded List.not_mem_nil
      | some engine =>
        rw [attached] at forwarded
        cases List.mem_cons.mp forwarded with
        | inl notified =>
          rw [notified]
          exact Bool.false_ne_true
        | inr reported =>
          obtain ⟨error, _, rfl⟩ := List.mem_map.mp reported
          exact Bool.false_ne_true

/-- The questions and reports of a registration are those of its verification, in order. -/
theorem register_verification (session : Session σ κ) (registration : Registration σ)
    (outside : Outside σ κ) :
    (session.register registration outside).events.filter Event.ofVerification =
      ((session.verifier.judge registration).run outside.types).events := by
  have verified : ((session.verifier.judge registration).run outside.types).events.filter
      Event.ofVerification = ((session.verifier.judge registration).run outside.types).events :=
    List.filter_eq_self.mpr (session.verifier.emits_judge registration outside.types)
  rw [register_events, List.filter_append, verified, settle_verification, List.append_nil]

/-! ## Many steps -/

/-- The events of a run, in order. -/
def events (session : Session σ κ) (outside : Outside σ κ) (commands : List (Command σ κ)) :
    List Event :=
  (session.steps outside commands).flatMap Performed.events

/-- The session and the other sides at the end of a run. -/
def ending (session : Session σ κ) (outside : Outside σ κ) (commands : List (Command σ κ)) :
    Session σ κ × Outside σ κ :=
  match (session.steps outside commands).getLast? with
  | none => (session, outside)
  | some last => (last.session, last.outside)

/-- A session that some run from a new session ends in. -/
def Reachable (session : Session σ κ) : Prop :=
  ∃ settings system outside commands,
    ((Session.new settings system).ending outside commands).1 = session

/-- What the steps of a run have to say, in order. -/
def gather {β : Type} (report : Session σ κ → Outside σ κ → Command σ κ → List β)
    (session : Session σ κ) (outside : Outside σ κ) : List (Command σ κ) → List β
  | [] => []
  | command :: rest =>
    let performed := session.perform command outside
    report session outside command ++ performed.session.gather report performed.outside rest

/-- A run ends where the rest of it ends after its first step. -/
theorem ending_cons (session : Session σ κ) (outside : Outside σ κ) (command : Command σ κ)
    (rest : List (Command σ κ)) :
    session.ending outside (command :: rest) =
      (session.perform command outside).session.ending
        (session.perform command outside).outside rest := by
  unfold ending
  rw [steps, List.getLast?_cons]
  cases ((session.perform command outside).session.steps
    (session.perform command outside).outside rest).getLast? <;> rfl

/-- What the configuration absorbs in one step. -/
def absorbed (session : Session σ κ) (outside : Outside σ κ) :
    Command σ κ → List Notification
  | .register registration => (session.verdict registration outside).absorbed?.toList
  | _ => []

/-- What an engine is sent in one step, if one is attached. -/
def sent (session : Session σ κ) (outside : Outside σ κ) : Command σ κ → List Notification
  | .register registration => (session.verdict registration outside).sent?.toList
  | _ => []

/-- The configuration at the end of a run has absorbed what the verdicts of the run count for. -/
theorem config_ending (session : Session σ κ) (outside : Outside σ κ)
    (commands : List (Command σ κ)) :
    (session.ending outside commands).1.config =
      session.config.absorbAll (session.gather absorbed outside commands) := by
  induction commands generalizing session outside with
  | nil => rfl
  | cons command rest hyp =>
    have step : (session.perform command outside).session.config =
        session.config.absorbAll (session.absorbed outside command) := by
      cases command with
      | register registration =>
        exact congrArg Session.config (session.register_session registration outside)
      | _ => rfl
    rw [ending_cons, hyp, step, gather]
    exact List.foldl_append.symm

/-- An engine that is attached throughout is notified of all that is sent, in order. -/
theorem notifications_events (session : Session σ κ) (attached : session.engine.isSome = true)
    (outside : Outside σ κ) (registrations : List (Registration σ)) :
    Event.notifications (session.events outside (registrations.map .register)) =
      session.gather sent outside (registrations.map .register) := by
  induction registrations generalizing session outside with
  | nil => rfl
  | cons registration rest hyp =>
    have still : (session.register registration outside).session.engine.isSome = true := by
      rw [register_session]
      exact attached
    have first := session.register_notifications registration outside
    rw [if_pos attached] at first
    have later := hyp _ still (session.register registration outside).outside
    rw [List.map_cons, gather, events, steps, List.flatMap_cons, Event.notifications_append]
    exact congrArg₂ (· ++ ·) first later

end Session

end ImageConfig
