import ImageConfig.Verification

/-!
# Registrations

A registration submits something to be collected. Verification gives a verdict on it: either
nothing of it counts, or the configuration absorbs one notification and the build engine is sent
one. The two are the same, except that a class whose members do not verify counts by its name
alone and is still passed on as submitted.
-/

namespace ImageConfig

/-- Something to be collected. -/
inductive Registration (σ : Type) where
  /-- One class entry. -/
  | addClass (entry : ClassEntry)
  /-- A collection of class entries. -/
  | addReflection (bulk : Reflection)
  /-- A dynamic proxy; with `verify`, each name has to stand for an interface. -/
  | addProxy (interfaces : Proxy) (verify : Bool)
  /-- Resource patterns and bundles. -/
  | addResources (resources : Resources)
  /-- One resource pattern, or the name of one bundle. -/
  | addResource (pattern : String) (isBundle : Bool)
  /-- A generated resource. -/
  | registerResource (name : String) (content : List UInt8)
  /-- Names to be initialized in one phase. -/
  | initializeAt (phase : Phase) (target : Target) (names : List String)
  /-- Types whose classes are to be initialized in one phase. -/
  | initializeTypes (phase : Phase) (types : List (FoundType σ))

/-- What the caller of a registration is told. -/
inductive Reply where
  /-- What became of a class entry. -/
  | outcome (outcome : Outcome)
  /-- What is left of a collection. -/
  | survivors (survivors : Survivors)
  /-- Whether a proxy was registered. -/
  | registered (registered : Bool)
  /-- Nothing. -/
  | done
deriving DecidableEq

/-- What verification says of a registration. -/
inductive Verdict where
  /-- Nothing of it counts. -/
  | refused (reply : Reply)
  /-- The configuration absorbs one notification, and the engine is sent another one. -/
  | accepted (reply : Reply) (absorbed sent : Notification)
deriving DecidableEq

namespace Verdict

/-- What the caller is told. -/
def reply : Verdict → Reply
  | refused reply => reply
  | accepted reply _ _ => reply

/-- The notification that the configuration absorbs, if the registration counts. -/
def absorbed? : Verdict → Option Notification
  | refused _ => none
  | accepted _ absorbed _ => some absorbed

/-- The notification that the engine is sent, if the registration counts. -/
def sent? : Verdict → Option Notification
  | refused _ => none
  | accepted _ _ sent => some sent

/-- The verdict on a registration that counts as it is. -/
def plain (reply : Reply) (notification : Notification) : Verdict :=
  accepted reply notification notification

/-- The verdict on a class entry with the given outcome. -/
def ofOutcome (entry : ClassEntry) (outcome : Outcome) : Verdict :=
  match outcome.kept entry with
  | none => refused (.outcome outcome)
  | some kept => accepted (.outcome outcome) (.addClass kept) (.addClass entry)

/-- The verdict on a collection of which the given survivors are left. -/
def ofSurvivors (bulk : Reflection) (survivors : Survivors) : Verdict :=
  plain (.survivors survivors) (.addReflection (survivors.kept bulk))

/-- The verdict on a proxy whose names hold, or do not hold. -/
def ofCheck (interfaces : Proxy) (holds : Bool) : Verdict :=
  if holds then plain (.registered true) (.addProxy interfaces) else refused (.registered false)

end Verdict

/-- The verdict on a registration. -/
def Verifier.judge {σ : Type} (verifier : Verifier σ) : Registration σ → Traced σ Verdict
  | .addClass entry => do
    let outcome ← verifier.classify entry
    return .ofOutcome entry outcome
  | .addReflection bulk => do
    let survivors ← verifier.filter bulk
    return .ofSurvivors bulk survivors
  | .addProxy interfaces true => do
    let holds ← verifier.checkAll .interface interfaces
    return .ofCheck interfaces holds
  | .addProxy interfaces false => return .plain (.registered true) (.addProxy interfaces)
  | .addResources resources => return .plain .done (.addResources resources)
  | .addResource pattern isBundle => return .plain .done (.addResource pattern isBundle)
  | .registerResource name content => return .plain .done (.registerResource name content)
  | .initializeAt phase target names => return .plain .done (.initializeAt phase target names)
  | .initializeTypes phase types => do
    let names ← dottedNames types
    return .plain .done (.initializeAt phase .classes names)

end ImageConfig
