import ImageConfig.Registration

/-!
# What verification does and answers

Verification asks the type system and reports checks that fail; it never notifies the engine
(`emits_judge`). What a check answers is what the type found answers: a name that is not found fails
every check (`TypeSystem.answer`). The members of an entry are looked up anew, after its type has
been checked, so a type system that changes between the two lookups is asked in both states.
-/

namespace ImageConfig

/-- The event belongs to a verification: a question, or the report of a check that failed. -/
def Event.ofVerification : Event → Bool
  | asked _ => true
  | notified _ _ => false
  | logged diagnostic => diagnostic.isVerification

namespace Traced

variable {ω α β : Type} {kind : Event → Bool}

/-- Every event of the computation is of the kind, whatever the state of the other side. -/
def Emits (kind : Event → Bool) (computation : Traced ω α) : Prop :=
  ∀ state, ∀ event ∈ (computation.run state).events, kind event = true

/-- An answer alone causes no event. -/
theorem emits_pure (value : α) : (pure value : Traced ω α).Emits kind :=
  fun _ _ emitted => absurd emitted List.not_mem_nil

/-- A change of the other side alone causes no event. -/
theorem emits_query (answer : ω → α × ω) : (query answer).Emits kind :=
  fun _ _ emitted => absurd emitted List.not_mem_nil

/-- One event is of the kind if that event is. -/
theorem emits_emit {event : Event} (ofKind : kind event = true) :
    (emit event : Traced ω Unit).Emits kind := by
  intro state other emitted
  rw [run_emit, List.mem_singleton] at emitted
  rw [emitted, ofKind]

/-- A computation followed by another causes the events of both. -/
theorem emits_bind {computation : Traced ω α} {next : α → Traced ω β}
    (first : computation.Emits kind) (second : ∀ value, (next value).Emits kind) :
    (computation >>= next).Emits kind := by
  intro state event emitted
  rw [run_bind, List.mem_append] at emitted
  cases emitted with
  | inl early => exact first _ event early
  | inr late => exact second _ _ event late

end Traced

/-! ## Events -/

section Events

open Traced

variable {σ : Type}

/-- Looking a name up asks one question. -/
theorem TypeSystem.emits_find (system : TypeSystem σ) (name : String) :
    (system.find name).Emits Event.ofVerification :=
  emits_bind (emits_query _) fun _ => emits_bind (emits_emit rfl) fun _ => emits_pure _

/-- Asking for dotted names asks one question for each type, and does nothing else. -/
theorem emits_dottedNames {kind : Event → Bool} (question : ∀ call, kind (.asked call) = true)
    (types : List (FoundType σ)) : (dottedNames types).Emits kind := by
  induction types with
  | nil => exact emits_pure _
  | cons type rest hyp =>
    have asked : type.askName.Emits kind :=
      emits_bind (emits_emit (question _)) fun _ => emits_pure _
    exact emits_bind asked fun _ => emits_bind hyp fun _ => emits_pure _

/-- The condition to be an interface asks at most one question. -/
theorem TypeCondition.emits_interface (found : Option (FoundType σ)) :
    (TypeCondition.interface found).Emits Event.ofVerification := by
  cases found with
  | none => exact emits_pure _
  | some type => exact emits_bind (emits_emit rfl) fun _ => emits_query _

namespace Verifier

/-- A report of a failed check writes nothing else. -/
theorem emits_report (verifier : Verifier σ) {diagnostic : Diagnostic}
    (ofCheck : diagnostic.isVerification = true) :
    (verifier.report diagnostic).Emits Event.ofVerification := by
  unfold report
  split
  · exact emits_emit ofCheck
  · exact emits_pure _

/-- Looking a name up for a check asks and reports. -/
theorem emits_find (verifier : Verifier σ) (check : Check) (name : String) :
    (verifier.find check name).Emits Event.ofVerification := by
  refine emits_bind (verifier.system.emits_find name) fun found => ?_
  split
  · exact emits_bind (verifier.emits_report rfl) fun _ => emits_pure _
  · exact emits_pure _

/-- The check of a type asks and reports. -/
theorem emits_verifyType (verifier : Verifier σ) (name : String) :
    (verifier.verifyType name).Emits Event.ofVerification := by
  refine emits_bind (verifier.emits_find .type name) fun found => ?_
  cases found with
  | none => exact emits_pure _
  | some type =>
    refine emits_bind (emits_bind (emits_emit rfl) fun _ => emits_query _) fun valid => ?_
    cases valid with
    | true => exact emits_pure _
    | false => exact emits_bind (verifier.emits_report rfl) fun _ => emits_pure _

/-- The check of members asks and reports. -/
theorem emits_verifyMembers (verifier : Verifier σ) (entry : ClassEntry) :
    (verifier.verifyMembers entry).Emits Event.ofVerification := by
  refine emits_bind (verifier.emits_find .members entry.name) fun found => ?_
  cases found with
  | none => exact emits_pure _
  | some type =>
    refine emits_bind (emits_bind (emits_emit rfl) fun _ => emits_query _) fun valid => ?_
    cases valid with
    | true => exact emits_pure _
    | false => exact emits_bind (verifier.emits_report rfl) fun _ => emits_pure _

/-- The check of a list of names asks and reports, if the condition on each name does. -/
theorem emits_checkAll (verifier : Verifier σ) {condition : TypeCondition σ}
    (each : ∀ found, (condition found).Emits Event.ofVerification) (names : List String) :
    (verifier.checkAll condition names).Emits Event.ofVerification := by
  induction names with
  | nil => exact emits_pure _
  | cons name rest hyp =>
    refine emits_bind (verifier.system.emits_find name) fun found =>
      emits_bind (each found) fun holds => ?_
    cases holds with
    | true => exact hyp
    | false => exact emits_bind (verifier.emits_report rfl) fun _ => emits_pure _

/-- The classification of an entry asks and reports. -/
theorem emits_classify (verifier : Verifier σ) (entry : ClassEntry) :
    (verifier.classify entry).Emits Event.ofVerification := by
  refine emits_bind (verifier.emits_verifyType entry.name) fun valid => ?_
  cases valid with
  | false => exact emits_pure _
  | true =>
    show Emits _ (if entry.membersSpecified = true then _ else _)
    split
    · refine emits_bind (verifier.emits_verifyMembers entry) fun complete => ?_
      cases complete <;> exact emits_pure _
    · exact emits_pure _

/-- The classification of a list of entries asks and reports. -/
theorem emits_classifyAll (verifier : Verifier σ) (entries : List ClassEntry) :
    (verifier.classifyAll entries).Emits Event.ofVerification := by
  induction entries with
  | nil => exact emits_pure _
  | cons entry rest hyp =>
    exact emits_bind (verifier.emits_classify entry) fun _ => emits_bind hyp fun _ => emits_pure _

/-- The verdict on a registration is reached by asking and reporting alone. -/
theorem emits_judge (verifier : Verifier σ) (registration : Registration σ) :
    (verifier.judge registration).Emits Event.ofVerification := by
  cases registration with
  | addClass entry => exact emits_bind (verifier.emits_classify entry) fun _ => emits_pure _
  | addReflection bulk =>
    exact emits_bind (emits_bind (verifier.emits_classifyAll bulk.entries) fun _ => emits_pure _)
      fun _ => emits_pure _
  | addProxy interfaces verify =>
    cases verify with
    | true =>
      exact emits_bind (verifier.emits_checkAll TypeCondition.emits_interface interfaces)
        fun _ => emits_pure _
    | false => exact emits_pure _
  | initializeTypes phase types =>
    exact emits_bind (emits_dottedNames (fun _ => rfl) types) fun _ => emits_pure _
  | addResources | addResource | registerResource | initializeAt => exact emits_pure _

end Verifier

end Events

/-! ## Answers -/

section Answers

open Traced

variable {σ : Type}

/-- What the type of the given name answers to a question. A name that is not found answers no. -/
def TypeSystem.answer (system : TypeSystem σ) (name : String)
    (question : FoundType σ → σ → Bool × σ) (state : σ) : Bool × σ :=
  match (system.resolve name state).1 with
  | none => (false, (system.resolve name state).2)
  | some type => question type (system.resolve name state).2

namespace Verifier

/-- What the type-level check of a name answers. -/
def typeAnswer (verifier : Verifier σ) (name : String) : σ → Bool × σ :=
  verifier.system.answer name fun type => type.verifyType verifier.debug

/-- What the member-level check of an entry answers. -/
def memberAnswer (verifier : Verifier σ) (entry : ClassEntry) : σ → Bool × σ :=
  verifier.system.answer entry.name fun type => type.verifyMembers entry verifier.debug

/-- Reporting where a check failed changes neither the answer nor the type system. -/
theorem run_reported {α : Type} (verifier : Verifier σ) (failed : Bool) (diagnostic : Diagnostic)
    (value : α) (state : σ) :
    ((if failed = true then do verifier.report diagnostic; pure value else pure value).run
        state).value = value ∧
      ((if failed = true then do verifier.report diagnostic; pure value else pure value).run
        state).after = state := by
  cases failed with
  | false => exact ⟨rfl, rfl⟩
  | true =>
    unfold report
    cases verifier.debug <;> exact ⟨rfl, rfl⟩

/-- Looking a name up for a check finds what the type system has, and leaves it as the lookup
does. -/
theorem run_find (verifier : Verifier σ) (check : Check) (name : String) (state : σ) :
    ((verifier.find check name).run state).value = (verifier.system.resolve name state).1 ∧
      ((verifier.find check name).run state).after = (verifier.system.resolve name state).2 := by
  unfold find TypeSystem.find
  simp only [run_bind, run_query, run_emit, run_pure]
  exact verifier.run_reported _ _ _ _

/-- The check of a type gives the answer of the type. -/
theorem run_verifyType (verifier : Verifier σ) (name : String) (state : σ) :
    ((verifier.verifyType name).run state).value = (verifier.typeAnswer name state).1 ∧
      ((verifier.verifyType name).run state).after = (verifier.typeAnswer name state).2 := by
  obtain ⟨found, after⟩ := verifier.run_find .type name state
  unfold verifyType typeAnswer TypeSystem.answer
  rw [run_bind, found, after]
  cases (verifier.system.resolve name state).1 with
  | none => exact ⟨rfl, rfl⟩
  | some type =>
    simp only [FoundType.askType, run_bind, run_query, run_emit]
    exact verifier.run_reported _ _ _ _

/-- The check of the members of an entry gives the answer of the type of that name. -/
theorem run_verifyMembers (verifier : Verifier σ) (entry : ClassEntry) (state : σ) :
    ((verifier.verifyMembers entry).run state).value = (verifier.memberAnswer entry state).1 ∧
      ((verifier.verifyMembers entry).run state).after =
        (verifier.memberAnswer entry state).2 := by
  obtain ⟨found, after⟩ := verifier.run_find .members entry.name state
  unfold verifyMembers memberAnswer TypeSystem.answer
  rw [run_bind, found, after]
  cases (verifier.system.resolve entry.name state).1 with
  | none => exact ⟨rfl, rfl⟩
  | some type =>
    simp only [FoundType.askMembers, run_bind, run_query, run_emit]
    exact verifier.run_reported _ _ _ _

/-- The outcome of a classification, from the answers of the two checks. The members are asked
for in the state that the check of the type leaves. -/
theorem value_classify (verifier : Verifier σ) (entry : ClassEntry) (state : σ) :
    ((verifier.classify entry).run state).value =
      if (verifier.typeAnswer entry.name state).1 = true then
        if entry.membersSpecified = true ∧
            (verifier.memberAnswer entry (verifier.typeAnswer entry.name state).2).1 = false then
          .downgraded
        else .accepted
      else .rejected := by
  obtain ⟨valid, after⟩ := verifier.run_verifyType entry.name state
  unfold classify
  rw [run_bind, valid, after]
  split
  · by_cases named : entry.membersSpecified = true
    · obtain ⟨complete, _⟩ :=
        verifier.run_verifyMembers entry (verifier.typeAnswer entry.name state).2
      simp only [named, ↓reduceIte, run_bind, complete, true_and]
      cases (verifier.memberAnswer entry (verifier.typeAnswer entry.name state).2).1 <;> rfl
    · simp [named]
  · rfl

end Verifier

end Answers

end ImageConfig
