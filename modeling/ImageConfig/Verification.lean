import ImageConfig.TypeSystem

/-!
# Verification

Whether a class, a collection of classes or a list of names counts depends on what the type system
answers about it. Every outcome of verification is an answer, never a failure. With `debug` set,
each check that fails writes exactly one diagnostic; otherwise failures are silent.

A collection is verified entry by entry, in order, before anything of it is dropped. What is left
of an entry has its name (`Outcome.name_of_kept`).
-/

namespace ImageConfig

/-- A type system with the wish for diagnostics. -/
structure Verifier (σ : Type) where
  /-- Where types are found. -/
  system : TypeSystem σ
  /-- Whether failed checks are reported. -/
  debug : Bool

/-- What becomes of one class entry. -/
inductive Outcome where
  /-- It counts as submitted. -/
  | accepted
  /-- The type is there but its members do not verify: only the name counts. -/
  | downgraded
  /-- The type is missing or not valid: nothing counts. -/
  | rejected
deriving DecidableEq

namespace Outcome

/-- What an entry counts for under an outcome. -/
def kept (entry : ClassEntry) : Outcome → Option ClassEntry
  | accepted => some entry
  | downgraded => some entry.toMinimal
  | rejected => none

/-- What is left of an entry has its name. -/
theorem name_of_kept {entry left : ClassEntry} {outcome : Outcome}
    (kept : outcome.kept entry = some left) : left.name = entry.name := by
  cases outcome <;> cases kept <;> rfl

end Outcome

/-- What is left of a collection after verification. -/
inductive Survivors where
  /-- All of it, as submitted. -/
  | unchanged
  /-- Less of it: the given collection. -/
  | reduced (kept : Reflection)
deriving DecidableEq

namespace Survivors

/-- The collection that is left of `bulk`. -/
def kept (bulk : Reflection) : Survivors → Reflection
  | unchanged => bulk
  | reduced kept => kept

/-- What is left of `bulk` when its entries have the given outcomes, in order. -/
def ofOutcomes (bulk : Reflection) (outcomes : List Outcome) : Survivors :=
  if outcomes.all (· == .accepted) then unchanged
  else
    reduced (Reflection.ofList
      ((bulk.entries.zip outcomes).filterMap fun pair => pair.2.kept pair.1))

end Survivors

/-- A condition on the result of a lookup, which may ask the type found. -/
abbrev TypeCondition (σ : Type) : Type := Option (FoundType σ) → Traced σ Bool

namespace TypeCondition

variable {σ : Type}

/-- The name stands for an interface. -/
def interface : TypeCondition σ
  | none => return false
  | some type => type.askInterface

/-- The name stands for no type, or for one that is not an interface. -/
def notInterface : TypeCondition σ := fun found => do
  let answer ← interface found
  return !answer

/-- The name stands for a type. -/
def resolved : TypeCondition σ := fun found => return found.isSome

/-- The name stands for no type. -/
def absent : TypeCondition σ := fun found => return found.isNone

/-- Holds of everything. -/
def always : TypeCondition σ := fun _ => return true

/-- Holds of nothing. -/
def never : TypeCondition σ := fun _ => return false

end TypeCondition

namespace Verifier

variable {σ : Type}

/-- Writes a diagnostic if diagnostics are wished for. -/
def report (verifier : Verifier σ) (diagnostic : Diagnostic) : Traced σ Unit :=
  if verifier.debug then Traced.emit (.logged diagnostic) else pure ()

/-- Looks a name up for a check, and reports a missing type as the failure of that check. -/
def find (verifier : Verifier σ) (check : Check) (name : String) :
    Traced σ (Option (FoundType σ)) := do
  let found ← verifier.system.find name
  if found.isNone then verifier.report (.missingType check name)
  return found

/-- Whether `name` stands for a type that verifies. -/
def verifyType (verifier : Verifier σ) (name : String) : Traced σ Bool := do
  match ← verifier.find .type name with
  | none => return false
  | some type =>
    let valid ← type.askType verifier.debug
    if !valid then verifier.report (.invalidType name)
    return valid

/-- Whether the type of `entry` is there and has the members that the entry names. -/
def verifyMembers (verifier : Verifier σ) (entry : ClassEntry) : Traced σ Bool := do
  match ← verifier.find .members entry.name with
  | none => return false
  | some type =>
    let valid ← type.askMembers entry verifier.debug
    if !valid then verifier.report (.invalidMembers entry)
    return valid

/-- Whether every name meets the condition. Names are looked up in order, none after the first
that fails. -/
def checkAll (verifier : Verifier σ) (condition : TypeCondition σ) :
    List String → Traced σ Bool
  | [] => return true
  | name :: rest => do
    let found ← verifier.system.find name
    let holds ← condition found
    if holds then verifier.checkAll condition rest
    else
      verifier.report (.failedCondition name found.isSome)
      return false

/-- What becomes of a class entry. Members are checked only where the entry names some. -/
def classify (verifier : Verifier σ) (entry : ClassEntry) : Traced σ Outcome := do
  if ← verifier.verifyType entry.name then
    if entry.membersSpecified then
      if ← verifier.verifyMembers entry then return .accepted else return .downgraded
    else return .accepted
  else return .rejected

/-- What becomes of each of the listed entries, classified in order. -/
def classifyAll (verifier : Verifier σ) : List ClassEntry → Traced σ (List Outcome)
  | [] => return []
  | entry :: rest => do
    let outcome ← verifier.classify entry
    let outcomes ← verifier.classifyAll rest
    return outcome :: outcomes

/-- What is left of a collection when each of its entries is classified, in order. -/
def filter (verifier : Verifier σ) (bulk : Reflection) : Traced σ Survivors := do
  let outcomes ← verifier.classifyAll bulk.entries
  return .ofOutcomes bulk outcomes

end Verifier

end ImageConfig
