import ImageConfig.Configuration
import ImageConfig.Diagnostic

/-!
# What a session does towards the outside

A session asks the type system, notifies a build engine and writes diagnostics. Each of these is
an event, and a computation that causes events is a function from the state of what it asks to an
answer, the events in order, and the state afterwards (`Traced`). The state belongs to the other
side: it is what lets an answer change from one question to the next. What has been collected is
such a side too, for the computation that stores what counts.
-/

namespace ImageConfig

/-- A question put to the type system. Types are named by their dotted names. -/
inductive TypeCall where
  /-- Look a name up. -/
  | resolve (name : String) (found : Bool)
  /-- Ask a type for its dotted name. -/
  | dottedName (type : String)
  /-- Ask whether a type is an interface. -/
  | isInterface (type : String)
  /-- Check a type and its hierarchy. -/
  | verifyType (type : String) (debug : Bool)
  /-- Check the members that an entry names. -/
  | verifyMembers (type : String) (entry : ClassEntry) (debug : Bool)
deriving DecidableEq

/-- Something that a session does towards the outside. -/
inductive Event where
  /-- A question to the type system. -/
  | asked (call : TypeCall)
  /-- A notification to the build engine, which read the first `taken` bytes of a content. -/
  | notified (notification : Notification) (taken : Nat)
  /-- A line written to the log. -/
  | logged (diagnostic : Diagnostic)
deriving DecidableEq

namespace Event

/-- The diagnostics among events, in order. -/
def diagnostics (events : List Event) : List Diagnostic :=
  events.filterMap fun event => match event with
    | logged diagnostic => some diagnostic
    | _ => none

end Event

/-- An answer with the events that led to it and the state of the other side afterwards. -/
structure Observed (ω α : Type) where
  /-- The answer. -/
  value : α
  /-- Events in order. -/
  events : List Event
  /-- State of the other side after the last event. -/
  after : ω

/-- A computation that deals with another side in a state of type `ω`. -/
def Traced (ω α : Type) : Type := ω → Observed ω α

namespace Traced

variable {ω α β : Type}

/-- Runs the computation from a state of the other side. -/
def run (computation : Traced ω α) (state : ω) : Observed ω α := computation state

instance : Monad (Traced ω) where
  pure value := fun state => ⟨value, [], state⟩
  bind computation next := fun state =>
    let first := computation state
    let second := next first.value first.after
    ⟨second.value, first.events ++ second.events, second.after⟩

/-- Causes one event. -/
def emit (event : Event) : Traced ω Unit := fun state => ⟨(), [event], state⟩

/-- Lets the other side answer and change. -/
def query (answer : ω → α × ω) : Traced ω α := fun state =>
  let answered := answer state
  ⟨answered.1, [], answered.2⟩

/-- Changes the state and causes no event. -/
def change (next : ω → ω) : Traced ω Unit := query fun state => ((), next state)

@[simp]
theorem run_pure (value : α) (state : ω) :
    (pure value : Traced ω α).run state = ⟨value, [], state⟩ := rfl

@[simp]
theorem run_bind (computation : Traced ω α) (next : α → Traced ω β) (state : ω) :
    (computation >>= next).run state =
      ⟨((next (computation.run state).value).run (computation.run state).after).value,
        (computation.run state).events ++
          ((next (computation.run state).value).run (computation.run state).after).events,
        ((next (computation.run state).value).run (computation.run state).after).after⟩ := rfl

@[simp]
theorem run_emit (event : Event) (state : ω) :
    (emit event : Traced ω Unit).run state = ⟨(), [event], state⟩ := rfl

@[simp]
theorem run_query (answer : ω → α × ω) (state : ω) :
    (query answer).run state = ⟨(answer state).1, [], (answer state).2⟩ := rfl

@[simp]
theorem run_change (next : ω → ω) (state : ω) :
    (change next).run state = ⟨(), [], next state⟩ := rfl

end Traced

end ImageConfig
