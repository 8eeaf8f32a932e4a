import ImageConfig.Engine
import ImageConfig.Registration
import ImageConfig.Storing

/-!
# Sessions

A session accumulates the configuration of one build. Each registration goes through three stages:
verification gives the verdict, what counts is stored, and the build engine, if one is attached, is
notified. Only the first stage asks the type system, only the last one reaches the engine, and the
configuration depends on neither except through the verdict.
-/

namespace ImageConfig

/-- Settings of a session. They affect diagnostics only. -/
structure Settings where
  /-- Whether each failed verification is reported. -/
  debugVerify : Bool := false
deriving DecidableEq

/-- The states of the two other sides that a session deals with. -/
structure Outside (σ κ : Type) where
  /-- State of the type system. -/
  types : σ
  /-- State of the build engine. -/
  engine : κ

/-- An accumulating configuration, with what it is verified against and passed on to. -/
structure Session (σ κ : Type) where
  /-- Settings. -/
  settings : Settings
  /-- Where types are found. -/
  system : TypeSystem σ
  /-- The engine that follows the session, if one is attached. -/
  engine : Option (Engine κ) := none
  /-- What has been collected. -/
  config : Configuration := ∅

/-- A session after one step, with what the step answered and caused. -/
structure Performed (σ κ : Type) where
  /-- What the caller is told. -/
  reply : Reply
  /-- Events in order. -/
  events : List Event
  /-- The session afterwards. -/
  session : Session σ κ
  /-- The other sides afterwards. -/
  outside : Outside σ κ

namespace Session

variable {σ κ : Type}

/-- A session in which nothing has been collected and no engine is attached. -/
def new (settings : Settings) (system : TypeSystem σ) : Session σ κ := { settings, system }

/-- What happens when a session begins. -/
def opening (settings : Settings) : List Event := [.logged (.sessionOpened settings.debugVerify)]

/-- How the session verifies. -/
def verifier (session : Session σ κ) : Verifier σ :=
  ⟨session.system, session.settings.debugVerify⟩

/-- The session after a verdict, with the events that lead from one to the other. -/
def settle (session : Session σ κ) (verdict : Verdict) (outside : Outside σ κ) :
    Performed σ κ :=
  match verdict with
  | .refused reply => ⟨reply, [], session, outside⟩
  | .accepted reply absorbed sent =>
    let stored := (Configuration.store absorbed).run session.config
    let forwarded := (Engine.forward session.engine sent.operation sent).run outside.engine
    { reply
      events := stored.events ++ forwarded.events
      session := { session with config := stored.after }
      outside := { outside with engine := forwarded.after } }

/-- Performs one registration. -/
def register (session : Session σ κ) (registration : Registration σ)
    (outside : Outside σ κ) : Performed σ κ :=
  let judged := (session.verifier.judge registration).run outside.types
  let settled := session.settle judged.value { outside with types := judged.after }
  { settled with events := judged.events ++ settled.events }

end Session

/-- A step of a session. -/
inductive Command (σ κ : Type) where
  /-- Collect something. -/
  | register (registration : Registration σ)
  /-- Find types in another type system from now on. -/
  | setTypeSystem (system : TypeSystem σ)
  /-- Attach an engine, in place of the one attached before. -/
  | attach (engine : Engine κ)
  /-- Attach no engine any more. -/
  | detach

namespace Session

variable {σ κ : Type}

/-- Performs one command. -/
def perform (session : Session σ κ) (command : Command σ κ) (outside : Outside σ κ) :
    Performed σ κ :=
  match command with
  | .register registration => session.register registration outside
  | .setTypeSystem system => ⟨.done, [], { session with system }, outside⟩
  | .attach engine => ⟨.done, [], { session with engine := some engine }, outside⟩
  | .detach => ⟨.done, [], { session with engine := none }, outside⟩

/-- The steps of a run of commands, in order. -/
def steps (session : Session σ κ) (outside : Outside σ κ) :
    List (Command σ κ) → List (Performed σ κ)
  | [] => []
  | command :: rest =>
    let performed := session.perform command outside
    performed :: performed.session.steps performed.outside rest

/-- A verdict changes nothing of a session but its configuration. -/
theorem settle_session (session : Session σ κ) (verdict : Verdict) (outside : Outside σ κ) :
    (session.settle verdict outside).session =
      { session with
        config := (verdict.absorbed?.map session.config.absorb).getD session.config } := by
  cases verdict <;> rfl

end Session

end ImageConfig
