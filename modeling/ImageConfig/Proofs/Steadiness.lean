import ImageConfig.Session
import ImageConfig.Proofs.Verification

/-!
# Steady type systems

A type system is steady when what it answers about a name does not depend on its state. Its state
may still change, so lookups may be counted or cached. Against a steady type system verification is
a function of what is registered alone (`judge_steady`): it matters neither what was asked before
nor what has been collected.
-/

namespace ImageConfig

variable {σ : Type}

/-- The answers about a name are the same in every state. -/
structure TypeSystem.Steady (system : TypeSystem σ) : Prop where
  /-- Whether a name stands for a type that is valid. -/
  type : ∀ name debug state other,
    (system.answer name (FoundType.verifyType · debug) state).1 =
      (system.answer name (FoundType.verifyType · debug) other).1
  /-- Whether the name of an entry stands for a type that has the members of the entry. -/
  members : ∀ entry debug state other,
    (system.answer entry.name (FoundType.verifyMembers · entry debug) state).1 =
      (system.answer entry.name (FoundType.verifyMembers · entry debug) other).1
  /-- Whether a name stands for an interface. -/
  interface : ∀ name state other,
    (system.answer name FoundType.isInterface state).1 =
      (system.answer name FoundType.isInterface other).1

namespace Verifier

variable {verifier : Verifier σ}

/-- The outcome of an entry is the same in every state. -/
theorem classify_steady (steady : verifier.system.Steady) (entry : ClassEntry) (state other : σ) :
    ((verifier.classify entry).run state).value = ((verifier.classify entry).run other).value := by
  have type : (verifier.typeAnswer entry.name state).1 = (verifier.typeAnswer entry.name other).1 :=
    steady.type entry.name verifier.debug state other
  have members : (verifier.memberAnswer entry (verifier.typeAnswer entry.name state).2).1 =
      (verifier.memberAnswer entry (verifier.typeAnswer entry.name other).2).1 :=
    steady.members entry verifier.debug _ _
  rw [value_classify, value_classify, type, members]

/-- The outcomes of a list of entries are the same in every state. -/
theorem classifyAll_steady (steady : verifier.system.Steady) (entries : List ClassEntry)
    (state other : σ) :
    ((verifier.classifyAll entries).run state).value =
      ((verifier.classifyAll entries).run other).value := by
  induction entries generalizing state other with
  | nil => rfl
  | cons entry rest hyp =>
    have first := verifier.classify_steady steady entry state other
    have later := hyp ((verifier.classify entry).run state).after
      ((verifier.classify entry).run other).after
    rw [classifyAll]
    simp only [Traced.run_bind, Traced.run_pure]
    rw [first, later]

/-- Names are checked as long as they meet the condition, each in the state the last one left. -/
theorem value_checkAll {verifier : Verifier σ} {condition : TypeCondition σ} {name : String}
    {rest : List String} {state after : σ} {found : Option (FoundType σ)}
    (resolved : verifier.system.resolve name state = (found, after)) :
    ((verifier.checkAll condition (name :: rest)).run state).value =
      (((condition found).run after).value &&
        ((verifier.checkAll condition rest).run ((condition found).run after).after).value) := by
  rw [checkAll]
  unfold TypeSystem.find
  simp only [Traced.run_bind, Traced.run_query, Traced.run_emit, Traced.run_pure, resolved]
  cases ((condition found).run after).value with
  | true => rfl
  | false => rfl

/-- The condition on a name is the answer of the type found. -/
theorem value_interface {system : TypeSystem σ} {name : String} {state after : σ}
    {found : Option (FoundType σ)} (resolved : system.resolve name state = (found, after)) :
    ((TypeCondition.interface found).run after).value =
      (system.answer name FoundType.isInterface state).1 := by
  unfold TypeSystem.answer
  rw [resolved]
  cases found with
  | none => rfl
  | some type => rfl

/-- Whether all names stand for interfaces is the same in every state. -/
theorem checkAll_interface_steady (steady : verifier.system.Steady) (names : List String)
    (state other : σ) :
    ((verifier.checkAll .interface names).run state).value =
      ((verifier.checkAll .interface names).run other).value := by
  induction names generalizing state other with
  | nil => rfl
  | cons name rest hyp =>
    rw [value_checkAll rfl, value_checkAll rfl, value_interface rfl, value_interface rfl,
      steady.interface name state other]
    exact congrArg (_ && ·) (hyp _ _)

/-- The dotted name of a type is part of the type. -/
theorem value_dottedNames (types : List (FoundType σ)) (state : σ) :
    ((dottedNames types).run state).value = types.map FoundType.dottedName := by
  induction types with
  | nil => rfl
  | cons type rest hyp => exact congrArg (type.dottedName :: ·) hyp

/-- The verdict on a registration is the same in every state. -/
theorem judge_steady (steady : verifier.system.Steady) (registration : Registration σ)
    (state other : σ) :
    ((verifier.judge registration).run state).value =
      ((verifier.judge registration).run other).value := by
  cases registration with
  | addClass entry =>
    have outcome := verifier.classify_steady steady entry state other
    exact congrArg (Verdict.ofOutcome entry) outcome
  | addReflection bulk =>
    have outcomes := verifier.classifyAll_steady steady bulk.entries state other
    exact congrArg (fun outcomes => Verdict.ofSurvivors bulk (.ofOutcomes bulk outcomes)) outcomes
  | addProxy interfaces verify =>
    cases verify with
    | false => rfl
    | true =>
      have holds := verifier.checkAll_interface_steady steady interfaces state other
      exact congrArg (Verdict.ofCheck interfaces) holds
  | initializeTypes phase types =>
    have names : ((dottedNames types).run state).value = ((dottedNames types).run other).value := by
      rw [value_dottedNames, value_dottedNames]
    exact congrArg (fun names => Verdict.plain .done (.initializeAt phase .classes names)) names
  | addResources | addResource | registerResource | initializeAt => rfl

end Verifier

/-! ## Type systems that are known beforehand -/

/-- The answers of a type that are known beforehand. -/
structure KnownType where
  /-- Whether it is an interface. -/
  isInterface : Bool := false
  /-- Whether the type and its hierarchy can be loaded. -/
  isValid : Bool := true
  /-- Whether it has the members of an entry. -/
  hasMembers : ClassEntry → Bool := fun _ => true

/-- A type of the given name, as it is found. -/
def KnownType.found (type : KnownType) (name : String) : FoundType Nat where
  dottedName := name
  isInterface count := (type.isInterface, count)
  verifyType _ count := (type.isValid, count)
  verifyMembers entry _ count := (type.hasMembers entry, count)

namespace TypeSystem

/-- The type system of the known types, which counts lookups. -/
def known (types : String → Option KnownType) : TypeSystem Nat where
  resolve name count := ((types name).map (KnownType.found · name), count + 1)

/-- A known type answers as it is known to, and every lookup is counted. -/
theorem answer_known (types : String → Option KnownType) (name : String)
    (question : FoundType Nat → Nat → Bool × Nat) (count : Nat) :
    (known types).answer name question count =
      match types name with
      | none => (false, count + 1)
      | some type => question (type.found name) (count + 1) := by
  unfold answer known
  cases found : types name <;> simp [found]

/-- A type system that only counts is steady. -/
theorem steady_known (types : String → Option KnownType) : (known types).Steady where
  type name debug state other := by
    rw [answer_known, answer_known]
    cases types name <;> rfl
  members entry debug state other := by
    rw [answer_known, answer_known]
    cases types entry.name <;> rfl
  interface name state other := by
    rw [answer_known, answer_known]
    cases types name <;> rfl

end TypeSystem

/-- A service interface, a plugin that has no members, and nothing else. -/
def pluginTypes : String → Option KnownType
  | "app.Service" => some { isInterface := true }
  | "app.Plugin" => some { hasMembers := fun _ => false }
  | _ => none

end ImageConfig
