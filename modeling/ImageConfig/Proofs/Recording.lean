import ImageConfig.Proofs.Run

/-!
# Engines that keep a record

What an engine is sent can be seen from the engine's side: a recording engine does what the engine
does and notes down every notification it receives, with the failure it answers. Recording makes no
difference to the session (`map_steps_recording`), so the record at the end of a run of recording
engines is an account of the run itself (`deliveries`). Each step adds to it what its verdict sends
to the engine attached at that moment (`deliveries_eq_gather`), and of the lines in the log that are
not about registrations there is one for each delivery that failed (`otherLines_events`).
-/

namespace ImageConfig

/-- The line is about a registration: a check that failed, or a name requested for both phases. -/
def Diagnostic.ofRegistration : Diagnostic → Bool
  | phaseConflict _ _ _ => true
  | other => other.isVerification

namespace Event

/-- The event belongs to a registration and not to the engine: a question to the type system, or a
line about a registration. -/
def ofRegistration : Event → Bool
  | asked _ => true
  | notified _ _ => false
  | logged diagnostic => diagnostic.ofRegistration

/-- Diagnostics of events that follow one another follow one another. -/
theorem diagnostics_append (first second : List Event) :
    diagnostics (first ++ second) = diagnostics first ++ diagnostics second :=
  List.filterMap_append

/-- What is logged are diagnostics. -/
theorem diagnostics_map_logged (logs : List Diagnostic) : diagnostics (logs.map logged) = logs := by
  unfold diagnostics
  rw [List.filterMap_map]
  exact List.filterMap_some

/-- The lines among events that are not about registrations, in order. -/
def otherLines (events : List Event) : List Diagnostic :=
  (diagnostics events).filter fun line => !line.ofRegistration

/-- Other lines of events that follow one another follow one another. -/
theorem otherLines_append (first second : List Event) :
    otherLines (first ++ second) = otherLines first ++ otherLines second := by
  unfold otherLines
  rw [diagnostics_append, List.filter_append]

/-- What belongs to registrations logs no other line. -/
theorem otherLines_of_registration {events : List Event}
    (ofKind : ∀ event ∈ events, event.ofRegistration = true) : otherLines events = [] := by
  refine List.filter_eq_nil_iff.mpr fun line logged => ?_
  obtain ⟨event, happened, isLine⟩ := List.mem_filterMap.mp logged
  have kind := ofKind event happened
  cases event with
  | asked call => cases isLine
  | notified notification taken => cases isLine
  | logged diagnostic =>
    obtain rfl : diagnostic = line := Option.some.inj isLine
    simpa [ofRegistration] using kind

/-- What belongs to a verification belongs to a registration. -/
theorem ofRegistration_of_verification {event : Event} (ofKind : event.ofVerification = true) :
    event.ofRegistration = true := by
  cases event with
  | asked call => rfl
  | notified notification taken => cases ofKind
  | logged diagnostic =>
    cases diagnostic with
    | phaseConflict phase target name => rfl
    | _ => exact ofKind

end Event

/-- One notification as an engine received it. -/
structure Delivery (κ : Type) where
  /-- The engine. -/
  engine : Engine κ
  /-- What it was sent. -/
  notification : Notification
  /-- The failure it answered, if it failed. -/
  failure : Option EngineError

namespace Delivery

variable {κ : Type}

/-- The diagnostic of a delivery that failed. -/
def report (delivery : Delivery κ) : Option Diagnostic :=
  delivery.failure.map (.forwardFailure delivery.notification.operation)

/-- The line that a delivery that failed leaves in the log. -/
def line (delivery : Delivery κ) : Option (Level × String) :=
  delivery.failure.map fun error =>
    (.warn, "event=connector_forward module=connector status=error operation=" ++
      delivery.notification.operation ++ " error=" ++ error.message)

/-- The diagnostics of failed deliveries have the lines of those deliveries. -/
theorem map_filterMap_report (deliveries : List (Delivery κ)) :
    (deliveries.filterMap report).map (fun diagnostic => (diagnostic.level, diagnostic.text)) =
      deliveries.filterMap line := by
  rw [List.map_filterMap]
  refine List.filterMap_congr fun delivery _ => ?_
  unfold report line
  cases delivery.failure <;> rfl

end Delivery

/-! ## Recording -/

section Recording

variable {σ κ : Type}

/-- The engine with a record of all that is delivered, first delivered first. -/
def Engine.recording (engine : Engine κ) : Engine (κ × List (Delivery κ)) where
  receive notification state :=
    let receipt := engine.receive notification state.1
    { failure := receipt.failure
      taken := receipt.taken
      after := (receipt.after, state.2 ++ [⟨engine, notification, receipt.failure⟩]) }

/-- The command with a recording engine in place of the one that it attaches. -/
def Command.recording : Command σ κ → Command σ (κ × List (Delivery κ))
  | register registration => register registration
  | setTypeSystem system => setTypeSystem system
  | attach engine => attach engine.recording
  | detach => detach

/-- The other sides with a record beside the state of the engine. -/
def Outside.recording (outside : Outside σ κ) (record : List (Delivery κ)) :
    Outside σ (κ × List (Delivery κ)) :=
  ⟨outside.types, (outside.engine, record)⟩

namespace Session

/-- The session with a recording engine in place of its own. -/
def recording (session : Session σ κ) : Session σ (κ × List (Delivery κ)) where
  settings := session.settings
  system := session.system
  engine := session.engine.map Engine.recording
  config := session.config

/-- What the engines of a run are delivered, as their record has it at the end. -/
def deliveries (session : Session σ κ) (outside : Outside σ κ) (commands : List (Command σ κ)) :
    List (Delivery κ) :=
  (session.recording.ending (outside.recording []) (commands.map .recording)).2.engine.2

/-- What a verdict delivers to the engine that is attached. -/
def handed (session : Session σ κ) (verdict : Verdict) (outside : Outside σ κ) :
    List (Delivery κ) :=
  match session.engine with
  | none => []
  | some engine => verdict.sent?.toList.map fun notification =>
    ⟨engine, notification, (engine.receive notification outside.engine).failure⟩

/-- What one step delivers. -/
def delivered (session : Session σ κ) (outside : Outside σ κ) : Command σ κ → List (Delivery κ)
  | .register registration => session.handed (session.verdict registration outside) outside
  | _ => []

/-- A recording engine notes down what a verdict hands to it, and makes no other difference. -/
theorem settle_recording (session : Session σ κ) (verdict : Verdict) (outside : Outside σ κ)
    (record : List (Delivery κ)) :
    let settled := session.settle verdict outside
    session.recording.settle verdict (outside.recording record) =
      ⟨settled.reply, settled.events, settled.session.recording,
        settled.outside.recording (record ++ session.handed verdict outside)⟩ := by
  obtain ⟨settings, system, engine, config⟩ := session
  cases verdict with
  | refused reply => cases engine <;> simp [settle, handed, Verdict.sent?]
  | accepted reply absorbed sent =>
    cases engine with
    | none => simp [settle, handed, recording, Outside.recording, Engine.forward]
    | some engine => rfl

/-- Recording engines note down what a step delivers, and make no other difference to it. -/
theorem perform_recording (session : Session σ κ) (command : Command σ κ) (outside : Outside σ κ)
    (record : List (Delivery κ)) :
    let performed := session.perform command outside
    session.recording.perform command.recording (outside.recording record) =
      ⟨performed.reply, performed.events, performed.session.recording,
        performed.outside.recording (record ++ session.delivered outside command)⟩ := by
  cases command with
  | register registration =>
    have settled := session.settle_recording (session.verdict registration outside) { outside with
      types := ((session.verifier.judge registration).run outside.types).after } record
    exact congrArg (fun performed => { performed with
      events := ((session.verifier.judge registration).run outside.types).events ++
        performed.events }) settled
  | setTypeSystem | attach | detach =>
    change _ = Performed.mk _ _ _ (Outside.recording _ (record ++ []))
    rw [List.append_nil]
    rfl

/-- The record at the end of a run holds what was noted before and what the steps deliver. -/
theorem record_ending (session : Session σ κ) (outside : Outside σ κ)
    (record : List (Delivery κ)) (commands : List (Command σ κ)) :
    (session.recording.ending (outside.recording record) (commands.map .recording)).2.engine.2 =
      record ++ session.gather delivered outside commands := by
  induction commands generalizing session outside record with
  | nil => exact (List.append_nil record).symm
  | cons command rest hyp =>
    rw [List.map_cons, ending_cons, perform_recording, gather, ← List.append_assoc]
    exact hyp _ _ _

/-- What the engines of a run are delivered is what its steps deliver, in order. -/
theorem deliveries_eq_gather (session : Session σ κ) (outside : Outside σ κ)
    (commands : List (Command σ κ)) :
    session.deliveries outside commands = session.gather delivered outside commands :=
  session.record_ending outside [] commands

/-! ## Lines about deliveries -/

/-- A report on a conflict is about a registration. -/
theorem ofRegistration_of_conflicts {config : Configuration} {absorbed : Notification}
    {diagnostic : Diagnostic} (among : diagnostic ∈ config.conflicts absorbed) :
    diagnostic.ofRegistration = true := by
  obtain ⟨_, _, _, rfl⟩ := Configuration.eq_phaseConflict_of_mem_conflicts among
  rfl

/-- The diagnostics that a verdict leads to report each conflict, and then what was handed to the
engine and failed. -/
theorem diagnostics_settle (session : Session σ κ) (verdict : Verdict) (outside : Outside σ κ) :
    Event.diagnostics (session.settle verdict outside).events =
      verdict.absorbed?.toList.flatMap session.config.conflicts ++
        (session.handed verdict outside).filterMap Delivery.report := by
  cases verdict with
  | refused reply =>
    unfold handed
    cases session.engine <;> rfl
  | accepted reply absorbed sent =>
    have absorbs : (Verdict.accepted reply absorbed sent).absorbed?.toList.flatMap
        session.config.conflicts = session.config.conflicts absorbed := List.append_nil _
    rw [settle_accepted, Event.diagnostics_append, Event.diagnostics_map_logged, absorbs]
    refine congrArg (_ ++ ·) ?_
    rw [handed]
    cases session.engine with
    | none => rfl
    | some engine =>
      unfold Engine.forward Engine.notify Traced.run
      cases failure : (engine.receive sent outside.engine).failure <;>
        simp [Event.diagnostics, Verdict.sent?, Delivery.report, failure]

/-- What a verdict leads to, apart from the engine, is a report on each conflict. -/
theorem filter_ofRegistration_settle (session : Session σ κ) (verdict : Verdict)
    (outside : Outside σ κ) :
    (session.settle verdict outside).events.filter Event.ofRegistration =
      (verdict.absorbed?.toList.flatMap session.config.conflicts).map Event.logged := by
  cases verdict with
  | refused reply => rfl
  | accepted reply absorbed sent =>
    have conflicts : ((session.config.conflicts absorbed).map Event.logged).filter
        Event.ofRegistration = (session.config.conflicts absorbed).map Event.logged := by
      refine List.filter_eq_self.mpr fun event happened => ?_
      obtain ⟨diagnostic, among, rfl⟩ := List.mem_map.mp happened
      exact ofRegistration_of_conflicts among
    have forwarded : ((Engine.forward session.engine sent.operation sent).run
        outside.engine).events.filter Event.ofRegistration = [] := by
      cases session.engine with
      | none => rfl
      | some engine =>
        refine List.filter_eq_nil_iff.mpr fun event happened => ?_
        cases List.mem_cons.mp happened with
        | inl notified =>
          rw [notified]
          exact Bool.false_ne_true
        | inr reported =>
          obtain ⟨error, _, rfl⟩ := List.mem_map.mp reported
          exact Bool.false_ne_true
    have absorbs : (Verdict.accepted reply absorbed sent).absorbed?.toList.flatMap
        session.config.conflicts = session.config.conflicts absorbed := List.append_nil _
    rw [settle_accepted, List.filter_append, conflicts, forwarded, absorbs, List.append_nil]

/-- Of the lines that a verdict leads to, those not about registrations report what was handed to
the engine and failed. -/
theorem otherLines_settle (session : Session σ κ) (verdict : Verdict) (outside : Outside σ κ) :
    Event.otherLines (session.settle verdict outside).events =
      (session.handed verdict outside).filterMap Delivery.report := by
  have conflicts : (verdict.absorbed?.toList.flatMap session.config.conflicts).filter
      (fun line => !line.ofRegistration) = [] := by
    refine List.filter_eq_nil_iff.mpr fun line among => ?_
    obtain ⟨absorbed, _, reported⟩ := List.mem_flatMap.mp among
    simp [ofRegistration_of_conflicts reported]
  have failures : ((session.handed verdict outside).filterMap Delivery.report).filter
      (fun line => !line.ofRegistration) =
        (session.handed verdict outside).filterMap Delivery.report := by
    refine List.filter_eq_self.mpr fun line among => ?_
    obtain ⟨delivery, _, reports⟩ := List.mem_filterMap.mp among
    obtain ⟨error, _, rfl⟩ := Option.map_eq_some_iff.mp reports
    rfl
  rw [Event.otherLines, diagnostics_settle, List.filter_append, conflicts, failures,
    List.nil_append]

/-- Of the lines that a step leads to, those not about registrations report what was delivered and
failed. -/
theorem otherLines_perform (session : Session σ κ) (command : Command σ κ)
    (outside : Outside σ κ) :
    Event.otherLines (session.perform command outside).events =
      (session.delivered outside command).filterMap Delivery.report := by
  cases command with
  | register registration =>
    have verified : Event.otherLines
        ((session.verifier.judge registration).run outside.types).events = [] :=
      Event.otherLines_of_registration fun event happened =>
        Event.ofRegistration_of_verification
          (session.verifier.emits_judge registration outside.types event happened)
    change Event.otherLines (session.register registration outside).events = _
    rw [register_events, Event.otherLines_append, verified, List.nil_append, otherLines_settle]
    rfl
  | setTypeSystem | attach | detach => rfl

/-- The lines of a run that are not about registrations report, in order, the deliveries that
failed, each once. -/
theorem otherLines_events (session : Session σ κ) (outside : Outside σ κ)
    (commands : List (Command σ κ)) :
    Event.otherLines (session.events outside commands) =
      (session.deliveries outside commands).filterMap Delivery.report := by
  rw [deliveries_eq_gather]
  induction commands generalizing session outside with
  | nil => rfl
  | cons command rest hyp =>
    have later := hyp (session.perform command outside).session
      (session.perform command outside).outside
    rw [events, steps, List.flatMap_cons, Event.otherLines_append, otherLines_perform, gather,
      List.filterMap_append]
    exact congrArg (_ ++ ·) later

end Session

end Recording

end ImageConfig
