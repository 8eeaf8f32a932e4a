import ImageConfig.BuildArguments
import ImageConfig.Proofs.Following
import ImageConfig.Proofs.Recording

/-!
# Independence of the engine

An engine that follows a session learns of it and has no way back into it. What can be observed of a
registration apart from the engine (`Observation`) is the same in two runs that register the same
things and differ in their engines: in which are attached, when, which notifications they fail on
and how much of a content they read. Each run is compared with the run of a session that never has
an engine (`gather_observed`), step by step. What remains of the log of a run is one line for each
notification that failed.
-/

namespace ImageConfig

section Engineless

variable {σ κ : Type}

/-- The command to a session that has no engine; what concerns engines alone is left out. -/
def Command.withoutEngine? : Command σ κ → Option (Command σ Unit)
  | register registration => some (.register registration)
  | setTypeSystem system => some (.setTypeSystem system)
  | attach _ | detach => none

/-- The session with no engine attached. -/
def Session.withoutEngine (session : Session σ κ) : Session σ Unit where
  settings := session.settings
  system := session.system
  engine := none
  config := session.config

/-- The other sides without the engine. -/
def Outside.withoutEngine (outside : Outside σ κ) : Outside σ Unit := ⟨outside.types, ()⟩

end Engineless

/-- What can be observed of a registration apart from the engine. -/
structure Observation where
  /-- What the caller is told. -/
  reply : Reply
  /-- What has been collected afterwards. -/
  config : Configuration
  /-- The text of the build arguments afterwards. -/
  arguments : String
  /-- Questions to the type system and lines about the registration, in order. -/
  events : List Event

namespace Session

variable {σ κ : Type}

/-- What can be observed of one step: a registration gives one observation. -/
def observed (session : Session σ κ) (outside : Outside σ κ) : Command σ κ → List Observation
  | .register registration =>
    let performed := session.register registration outside
    [{ reply := performed.reply
       config := performed.session.config
       arguments := BuildArguments.render performed.session.config.timing
       events := performed.events.filter Event.ofRegistration }]
  | _ => []

/-- What belongs to a registration is its verification and then a report on each conflict. -/
theorem filter_ofRegistration_register (session : Session σ κ) (registration : Registration σ)
    (outside : Outside σ κ) :
    (session.register registration outside).events.filter Event.ofRegistration =
      ((session.verifier.judge registration).run outside.types).events ++
        ((session.verdict registration outside).absorbed?.toList.flatMap
          session.config.conflicts).map Event.logged := by
  have verified : ((session.verifier.judge registration).run outside.types).events.filter
      Event.ofRegistration = ((session.verifier.judge registration).run outside.types).events :=
    List.filter_eq_self.mpr fun event happened => Event.ofRegistration_of_verification
      (session.verifier.emits_judge registration outside.types event happened)
  rw [register_events, List.filter_append, verified, filter_ofRegistration_settle]

/-- A session without an engine registers to the same effect. -/
theorem register_withoutEngine (session : Session σ κ) (registration : Registration σ)
    (outside : Outside σ κ) :
    let performed := session.register registration outside
    let alone := session.withoutEngine.register registration outside.withoutEngine
    alone.reply = performed.reply ∧ alone.session = performed.session.withoutEngine ∧
      alone.outside = performed.outside.withoutEngine ∧
      alone.events.filter Event.ofRegistration =
        performed.events.filter Event.ofRegistration := by
  refine ⟨?reply, ?session, ?outside, ?events⟩
  case reply =>
    rw [register_reply, register_reply]
    rfl
  case session =>
    rw [register_session, register_session]
    rfl
  case outside =>
    have types : ∀ verdict, (session.withoutEngine.settle verdict { outside.withoutEngine with
        types := ((session.verifier.judge registration).run outside.types).after }).outside =
          (session.settle verdict { outside with
            types := ((session.verifier.judge registration).run outside.types).after
          }).outside.withoutEngine := by
      intro verdict
      cases verdict <;> rfl
    exact types (session.verdict registration outside)
  case events =>
    rw [filter_ofRegistration_register, filter_ofRegistration_register]
    rfl

/-- What can be observed of a run is what can be observed of it without engines. -/
theorem gather_observed (session : Session σ κ) (outside : Outside σ κ)
    (commands : List (Command σ κ)) :
    session.gather observed outside commands =
      session.withoutEngine.gather observed outside.withoutEngine
        (commands.filterMap Command.withoutEngine?) := by
  induction commands generalizing session outside with
  | nil => rfl
  | cons command rest hyp =>
    rw [gather, hyp]
    cases command with
    | register registration =>
      obtain ⟨reply, after, outsideAfter, events⟩ :=
        session.register_withoutEngine registration outside
      have observation : session.withoutEngine.observed outside.withoutEngine
          (.register registration) = session.observed outside (.register registration) := by
        simp only [observed, reply, after, events]
        rfl
      have kept : (Command.register registration :: rest).filterMap Command.withoutEngine? =
          .register registration :: rest.filterMap Command.withoutEngine? := rfl
      rw [kept, gather, observation]
      simp only [perform, after, outsideAfter]
    | setTypeSystem system => rfl
    | attach engine => rfl
    | detach => rfl

/-- Two runs of new sessions that differ in their engines alone agree, after every registration, on
what the caller is told, on all that has been collected and its build arguments, and on the
questions to the type system and the lines about the registration. All other lines in the log of
either run are warnings, one for each notification on which an engine failed. -/
theorem observations_eq {μ : Type} (settings : Settings) (system : TypeSystem σ) (types : σ)
    (engine : κ) (other : μ) {commands : List (Command σ κ)} {others : List (Command σ μ)}
    (alike : commands.filterMap Command.withoutEngine? =
      others.filterMap Command.withoutEngine?) :
    let opened : Session σ κ := Session.new settings system
    let twin : Session σ μ := Session.new settings system
    opened.gather observed ⟨types, engine⟩ commands = twin.gather observed ⟨types, other⟩ others ∧
    (Event.otherLines (opened.events ⟨types, engine⟩ commands)).map
        (fun line => (line.level, line.text)) =
      (opened.deliveries ⟨types, engine⟩ commands).filterMap Delivery.line ∧
    (Event.otherLines (twin.events ⟨types, other⟩ others)).map
        (fun line => (line.level, line.text)) =
      (twin.deliveries ⟨types, other⟩ others).filterMap Delivery.line := by
  intro opened twin
  refine ⟨?observations, ?lines, ?otherLines⟩
  case observations =>
    have first := opened.gather_observed ⟨types, engine⟩ commands
    have second := twin.gather_observed ⟨types, other⟩ others
    rw [first, second, alike]
    rfl
  case lines => rw [otherLines_events, Delivery.map_filterMap_report]
  case otherLines => rw [otherLines_events, Delivery.map_filterMap_report]

/-- An engine that reads nothing and refuses everything. -/
def refusingEngine : Engine Unit where
  receive _ _ := { failure := some (.rejected "busy"), taken := 0, after := () }

/-- A run followed by an engine that fails now and then, and the same run with an engine that comes
late, refuses everything and is sent away again. -/
theorem flaky_and_refused_observations_eq :
    let opened : Session Nat Nat := Session.new { debugVerify := true } (.known pluginTypes)
    let twin : Session Nat Unit := Session.new { debugVerify := true } (.known pluginTypes)
    let commands : List (Command Nat Nat) :=
      .attach flakyEngine :: pluginRegistrations.map .register
    let others : List (Command Nat Unit) :=
      (pluginRegistrations.take 3).map .register ++ .attach refusingEngine ::
        (pluginRegistrations.drop 3).map .register ++ [.detach]
    commands.filterMap Command.withoutEngine? = others.filterMap Command.withoutEngine? ∧
    opened.gather observed ⟨0, 0⟩ commands = twin.gather observed ⟨0, ()⟩ others ∧
    (opened.deliveries ⟨0, 0⟩ commands).length = 7 ∧
    (Event.otherLines (opened.events ⟨0, 0⟩ commands)).length = 3 ∧
    (Event.otherLines (twin.events ⟨0, ()⟩ others)).length = 5 := by
  intro opened twin commands others
  have alike : commands.filterMap Command.withoutEngine? =
      others.filterMap Command.withoutEngine? := rfl
  obtain ⟨same, _, _⟩ :=
    observations_eq { debugVerify := true } (.known pluginTypes) 0 0 () alike
  exact ⟨alike, same, by decide +kernel, by decide +kernel, by decide +kernel⟩

end Session

end ImageConfig
