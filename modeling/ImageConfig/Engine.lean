import ImageConfig.Event

/-!
# The build engine beside a session

A running build engine may follow a session by receiving its notifications. It may fail on any of
them, and it may read any part of the content of a generated resource. A failure is reported in
one diagnostic and has no other effect on the session.
-/

namespace ImageConfig

/-- What a build engine makes of one notification. -/
structure Receipt (κ : Type) where
  /-- The failure, if it failed. -/
  failure : Option EngineError
  /-- How many bytes of a content it read, at most. -/
  taken : Nat
  /-- State of the engine afterwards. -/
  after : κ

/-- A build engine that can be reached; its state has type `κ`. -/
structure Engine (κ : Type) where
  /-- Passes one notification on. -/
  receive : Notification → κ → Receipt κ

namespace Engine

variable {κ : Type}

/-- Notifies the engine, on behalf of the operation of the given name, and reports a failure. -/
def notify (engine : Engine κ) (operation : String) (notification : Notification) :
    Traced κ Unit := fun state =>
  let receipt := engine.receive notification state
  let report := receipt.failure.toList.map fun error =>
    Event.logged (.forwardFailure operation error)
  ⟨(), .notified notification receipt.taken :: report, receipt.after⟩

/-- Notifies an engine, if one is attached. -/
def forward (attached : Option (Engine κ)) (operation : String) (notification : Notification) :
    Traced κ Unit :=
  match attached with
  | none => pure ()
  | some engine => engine.notify operation notification

end Engine

end ImageConfig
