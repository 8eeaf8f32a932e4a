import Mathlib.Data.List.Forall2
import ImageConfig.BuildArguments
import ImageConfig.Proofs.Following
import ImageConfig.Proofs.Recording

/-!
# Independence of the wish for diagnostics

Two runs of the same commands, one with lines on failed checks wished for and one without, differ in
those lines and in nothing else. The wish is passed on to the types that are asked, so this cannot
hold unless their answers are independent of it (`TypeSystem.DebugBlind`). A type may still keep a
log of its own, so the type systems of the two runs need not stay in the same state: it is enough
that no answer ever tells their states apart.

The second run is compared with the first one through what is left of the events of the first
(`Event.quieted`). That relation is closed under everything that verification does
(`Traced.Mirrored`), and therefore holds of every verdict (`Verifier.mirrored_judge`), of every step
(`Session.Twins.perform`) and of every run (`Session.Twins.steps`).
-/

namespace ImageConfig

/-! ## What is left of events -/

/-- The question as it is put where diagnostics are not wished for. -/
def TypeCall.quieted : TypeCall → TypeCall
  | verifyType type _ => verifyType type false
  | verifyMembers type entry _ => verifyMembers type entry false
  | call => call

namespace Event

/-- The questions to the type system among events, in order. -/
def questions (events : List Event) : List TypeCall :=
  events.filterMap fun event => match event with
    | asked call => some call
    | _ => none

/-- What is left of an event where lines on failed checks are not wished for. -/
def quieted? : Event → Option Event
  | asked call => some (asked call.quieted)
  | notified notification taken => some (notified notification taken)
  | logged diagnostic => if diagnostic.isVerification then none else some (logged diagnostic)

/-- What is left of events where lines on failed checks are not wished for. -/
def quieted (events : List Event) : List Event := events.filterMap quieted?

/-- Of events that follow one another, what is left follows one another. -/
theorem quieted_append (first second : List Event) :
    quieted (first ++ second) = quieted first ++ quieted second :=
  List.filterMap_append

/-- All is left of what does not belong to a verification. -/
theorem quieted_of_not_verification {events : List Event}
    (others : events.filter ofVerification = []) : quieted events = events := by
  have each : ∀ event ∈ events, event.quieted? = some event := by
    intro event happened
    have other := List.filter_eq_nil_iff.mp others event happened
    cases event with
    | asked call => exact absurd rfl other
    | notified notification taken => rfl
    | logged diagnostic => exact if_neg other
  exact (List.filterMap_congr each).trans List.filterMap_some

/-- The questions that are left are the same but for the wish that they pass on. -/
theorem questions_quieted (events : List Event) :
    questions (quieted events) = (questions events).map TypeCall.quieted := by
  unfold questions quieted
  rw [List.filterMap_filterMap, List.map_filterMap]
  refine List.filterMap_congr fun event _ => ?_
  cases event with
  | asked call => rfl
  | notified notification taken => rfl
  | logged diagnostic => cases ofCheck : diagnostic.isVerification <;> simp [quieted?, ofCheck]

/-- The lines that are left are those that do not report a failed check. -/
theorem diagnostics_quieted (events : List Event) :
    diagnostics (quieted events) =
      (diagnostics events).filter fun diagnostic => !diagnostic.isVerification := by
  unfold diagnostics quieted
  rw [List.filterMap_filterMap, List.filter_filterMap]
  refine List.filterMap_congr fun event _ => ?_
  cases event with
  | asked call => rfl
  | notified notification taken => rfl
  | logged diagnostic =>
    cases ofCheck : diagnostic.isVerification <;> simp [quieted?, Option.filter, ofCheck]

end Event

/-! ## Type systems that take no notice -/

section Alike

variable {σ α β : Type}

/-- From states that are alike, two questions get answers that are the same in the given sense, and
leave states that are alike. -/
def Answered (alike : σ → σ → Prop) (same : α → β → Prop) (loud : σ → α × σ) (quiet : σ → β × σ) :
    Prop :=
  ∀ ⦃state other⦄, alike state other →
    same (loud state).1 (quiet other).1 ∧ alike (loud state).2 (quiet other).2

/-- Two types that cannot be told apart, if the first is asked with diagnostics wished for and the
second without. -/
structure FoundType.Alike (alike : σ → σ → Prop) (loud quiet : FoundType σ) : Prop where
  /-- They have one name. -/
  dottedName : loud.dottedName = quiet.dottedName
  /-- Both are interfaces or neither is. -/
  isInterface : Answered alike Eq loud.isInterface quiet.isInterface
  /-- Both are valid or neither is. -/
  verifyType : Answered alike Eq (loud.verifyType true) (quiet.verifyType false)
  /-- Both have the members of an entry or neither has. -/
  verifyMembers : ∀ entry,
    Answered alike Eq (loud.verifyMembers entry true) (quiet.verifyMembers entry false)

/-- The answers of the type system are independent of the wish for diagnostics: in states that are
alike it finds types that cannot be told apart, or none. -/
def TypeSystem.DebugBlind (alike : σ → σ → Prop) (system : TypeSystem σ) : Prop :=
  ∀ name, Answered alike (Option.Rel (FoundType.Alike alike)) (system.resolve name)
    (system.resolve name)

/-- Where only equal states are alike, that is to say that types ignore the wish altogether. -/
theorem TypeSystem.debugBlind_eq_iff (system : TypeSystem σ) :
    system.DebugBlind Eq ↔ ∀ name state, ∀ type ∈ (system.resolve name state).1,
      type.verifyType true = type.verifyType false ∧
        ∀ entry, type.verifyMembers entry true = type.verifyMembers entry false := by
  constructor
  · intro blind name state type found
    have related := (blind name (rfl : state = state)).1
    rw [found] at related
    obtain ⟨alike⟩ := related
    exact ⟨funext fun before => Prod.ext (alike.verifyType rfl).1 (alike.verifyType rfl).2,
      fun entry => funext fun before =>
        Prod.ext (alike.verifyMembers entry rfl).1 (alike.verifyMembers entry rfl).2⟩
  · rintro ignored name state _ rfl
    refine ⟨?_, rfl⟩
    cases found : (system.resolve name state).1 with
    | none => exact Option.Rel.none
    | some type =>
      obtain ⟨sameType, sameMembers⟩ := ignored name state type found
      refine Option.Rel.some ⟨rfl, ?isInterface, ?verifyType, fun entry => ?verifyMembers⟩
      case isInterface =>
        rintro before _ rfl
        exact ⟨rfl, rfl⟩
      case verifyType =>
        rintro before _ rfl
        rw [sameType]
        exact ⟨rfl, rfl⟩
      case verifyMembers =>
        rintro before _ rfl
        rw [sameMembers]
        exact ⟨rfl, rfl⟩

end Alike

/-! ## Computations side by side -/

namespace Traced

variable {σ α β γ δ : Type} {alike : σ → σ → Prop}

/-- From states that are alike, two computations give values that are the same in the given sense,
and leave states that are alike. The second causes what is left of the events of the first. -/
def Mirrored (alike : σ → σ → Prop) (same : α → β → Prop) (loud : Traced σ α) (quiet : Traced σ β) :
    Prop :=
  ∀ ⦃state other⦄, alike state other →
    same (loud.run state).value (quiet.run other).value ∧
    (quiet.run other).events = Event.quieted (loud.run state).events ∧
    alike (loud.run state).after (quiet.run other).after

variable {same : α → β → Prop}

/-- The same value is given on either side. -/
theorem mirrored_pure {value : α} {twin : β} (related : same value twin) :
    Mirrored alike same (pure value) (pure twin) :=
  fun _ _ states => ⟨related, rfl, states⟩

/-- The other side is asked on either side. -/
theorem mirrored_query {loud : σ → α × σ} {quiet : σ → β × σ}
    (answered : Answered alike same loud quiet) :
    Mirrored alike same (query loud) (query quiet) :=
  fun _ _ states => ⟨(answered states).1, rfl, (answered states).2⟩

/-- One event is caused on either side, if it is left on the other. -/
theorem mirrored_emit {loud quiet : Event} (left : loud.quieted? = some quiet) :
    Mirrored alike Eq (emit loud : Traced σ Unit) (emit quiet) := by
  have kept : Event.quieted [loud] = [quiet] := List.filterMap_cons_some left
  exact fun _ _ states => ⟨rfl, kept.symm, states⟩

/-- What follows goes side by side if it does so for values that are the same. -/
theorem mirrored_bind {result : γ → δ → Prop} {loud : Traced σ α} {quiet : Traced σ β}
    {loudNext : α → Traced σ γ} {quietNext : β → Traced σ δ}
    (first : Mirrored alike same loud quiet)
    (second : ∀ value twin, same value twin →
      Mirrored alike result (loudNext value) (quietNext twin)) :
    Mirrored alike result (loud >>= loudNext) (quiet >>= quietNext) := by
  intro state other states
  obtain ⟨related, events, after⟩ := first states
  obtain ⟨result, later, ending⟩ := second _ _ related after
  refine ⟨result, ?_, ending⟩
  rw [run_bind, run_bind, Event.quieted_append, ← events, ← later]

/-- What follows goes side by side if it does so for each value that is given on both sides. -/
theorem mirrored_bind_eq {result : γ → δ → Prop} {loud quiet : Traced σ α}
    {loudNext : α → Traced σ γ} {quietNext : α → Traced σ δ} (first : Mirrored alike Eq loud quiet)
    (second : ∀ value, Mirrored alike result (loudNext value) (quietNext value)) :
    Mirrored alike result (loud >>= loudNext) (quiet >>= quietNext) :=
  mirrored_bind first fun value _ equal => equal ▸ second value

/-- A question is put on either side, with diagnostics wished for on one at most. -/
theorem mirrored_ask {loud : σ → α × σ} {quiet : σ → β × σ} {call twin : TypeCall}
    (left : call.quieted = twin) (answered : Answered alike same loud quiet) :
    Mirrored alike same (do emit (.asked call); query loud)
      (do emit (.asked twin); query quiet) :=
  mirrored_bind_eq (mirrored_emit (congrArg (some ∘ Event.asked) left)) fun _ =>
    mirrored_query answered

end Traced

/-! ## Verification -/

section Verification

open Traced

variable {σ : Type} {alike : σ → σ → Prop} {system : TypeSystem σ}

/-- A name is looked up side by side. -/
theorem TypeSystem.mirrored_find (blind : system.DebugBlind alike) (name : String) :
    Mirrored alike (Option.Rel (FoundType.Alike alike)) (system.find name) (system.find name) := by
  refine mirrored_bind (mirrored_query (blind name)) fun found twin related => ?_
  have still : found.isSome = twin.isSome := by cases related <;> rfl
  rw [still]
  exact mirrored_bind_eq (mirrored_emit rfl) fun _ => mirrored_pure related

/-- Types are asked for their dotted names side by side. -/
theorem mirrored_dottedNames (types : List (FoundType σ)) :
    Mirrored alike Eq (dottedNames types) (dottedNames types) := by
  induction types with
  | nil => exact mirrored_pure rfl
  | cons type rest hyp =>
    have named : Mirrored alike Eq type.askName type.askName :=
      mirrored_bind_eq (mirrored_emit rfl) fun _ => mirrored_pure rfl
    exact mirrored_bind_eq named fun _ => mirrored_bind_eq hyp fun _ => mirrored_pure rfl

/-- Whether what is found is an interface is asked side by side. -/
theorem TypeCondition.mirrored_interface {found twin : Option (FoundType σ)}
    (related : Option.Rel (FoundType.Alike alike) found twin) :
    Mirrored alike Eq (interface found) (interface twin) := by
  cases related with
  | none => exact mirrored_pure rfl
  | some types =>
    exact mirrored_ask (congrArg TypeCall.isInterface types.dottedName) types.isInterface

namespace Verifier

/-- The report of a failed check is left out on the other side. -/
theorem mirrored_report {diagnostic : Diagnostic} (ofCheck : diagnostic.isVerification = true) :
    Mirrored alike Eq (Verifier.report ⟨system, true⟩ diagnostic)
      (Verifier.report ⟨system, false⟩ diagnostic) := by
  have leftOut : Event.quieted [.logged diagnostic] = [] :=
    List.filterMap_cons_none (if_pos ofCheck)
  exact fun _ _ states => ⟨rfl, leftOut.symm, states⟩

/-- What is reported where a check failed is left out on the other side, and nothing else. -/
theorem mirrored_reported {α : Type} {same : α → α → Prop} {diagnostic : Diagnostic}
    (ofCheck : diagnostic.isVerification = true) (failed : Bool) {value twin : α}
    (related : same value twin) :
    Mirrored alike same
      (if failed = true then do Verifier.report ⟨system, true⟩ diagnostic; pure value
        else pure value)
      (if failed = true then do Verifier.report ⟨system, false⟩ diagnostic; pure twin
        else pure twin) := by
  cases failed with
  | false => exact mirrored_pure related
  | true => exact mirrored_bind_eq (mirrored_report ofCheck) fun _ => mirrored_pure related

/-- A name is looked up for a check side by side. -/
theorem mirrored_find (blind : system.DebugBlind alike) (check : Check) (name : String) :
    Mirrored alike (Option.Rel (FoundType.Alike alike)) (Verifier.find ⟨system, true⟩ check name)
      (Verifier.find ⟨system, false⟩ check name) := by
  refine mirrored_bind (TypeSystem.mirrored_find blind name) fun found twin related => ?_
  have still : found.isNone = twin.isNone := by cases related <;> rfl
  rw [still]
  exact mirrored_reported rfl _ related

/-- Types are checked side by side. -/
theorem mirrored_verifyType (blind : system.DebugBlind alike) (name : String) :
    Mirrored alike Eq (Verifier.verifyType ⟨system, true⟩ name)
      (Verifier.verifyType ⟨system, false⟩ name) := by
  refine mirrored_bind (mirrored_find blind .type name) fun found twin related => ?_
  cases related with
  | none => exact mirrored_pure rfl
  | some types =>
    have named := congrArg (TypeCall.verifyType · false) types.dottedName
    exact mirrored_bind_eq (mirrored_ask named types.verifyType) fun valid =>
      mirrored_reported rfl (!valid) rfl

/-- Members are checked side by side. -/
theorem mirrored_verifyMembers (blind : system.DebugBlind alike) (entry : ClassEntry) :
    Mirrored alike Eq (Verifier.verifyMembers ⟨system, true⟩ entry)
      (Verifier.verifyMembers ⟨system, false⟩ entry) := by
  refine mirrored_bind (mirrored_find blind .members entry.name) fun found twin related => ?_
  cases related with
  | none => exact mirrored_pure rfl
  | some types =>
    have named := congrArg (TypeCall.verifyMembers · entry false) types.dottedName
    exact mirrored_bind_eq (mirrored_ask named (types.verifyMembers entry)) fun complete =>
      mirrored_reported rfl (!complete) rfl

/-- Lists of names are checked side by side, and both checks end at the same name. -/
theorem mirrored_checkAll (blind : system.DebugBlind alike) (names : List String) :
    Mirrored alike Eq (Verifier.checkAll ⟨system, true⟩ .interface names)
      (Verifier.checkAll ⟨system, false⟩ .interface names) := by
  induction names with
  | nil => exact mirrored_pure rfl
  | cons name rest hyp =>
    refine mirrored_bind (TypeSystem.mirrored_find blind name) fun found twin related => ?_
    refine mirrored_bind_eq (TypeCondition.mirrored_interface related) fun holds => ?_
    have still : found.isSome = twin.isSome := by cases related <;> rfl
    rw [still]
    cases holds with
    | true => exact hyp
    | false => exact mirrored_bind_eq (mirrored_report rfl) fun _ => mirrored_pure rfl

/-- Entries are classified side by side. -/
theorem mirrored_classify (blind : system.DebugBlind alike) (entry : ClassEntry) :
    Mirrored alike Eq (Verifier.classify ⟨system, true⟩ entry)
      (Verifier.classify ⟨system, false⟩ entry) := by
  refine mirrored_bind_eq (mirrored_verifyType blind entry.name) fun valid => ?_
  cases valid with
  | false => exact mirrored_pure rfl
  | true =>
    show Mirrored alike Eq (if entry.membersSpecified = true then _ else _)
      (if entry.membersSpecified = true then _ else _)
    split
    · refine mirrored_bind_eq (mirrored_verifyMembers blind entry) fun complete => ?_
      cases complete <;> exact mirrored_pure rfl
    · exact mirrored_pure rfl

/-- Lists of entries are classified side by side. -/
theorem mirrored_classifyAll (blind : system.DebugBlind alike) (entries : List ClassEntry) :
    Mirrored alike Eq (Verifier.classifyAll ⟨system, true⟩ entries)
      (Verifier.classifyAll ⟨system, false⟩ entries) := by
  induction entries with
  | nil => exact mirrored_pure rfl
  | cons entry rest hyp =>
    exact mirrored_bind_eq (mirrored_classify blind entry) fun _ =>
      mirrored_bind_eq hyp fun _ => mirrored_pure rfl

/-- Verdicts are reached side by side, and are the same. -/
theorem mirrored_judge (blind : system.DebugBlind alike) (registration : Registration σ) :
    Mirrored alike Eq (Verifier.judge ⟨system, true⟩ registration)
      (Verifier.judge ⟨system, false⟩ registration) := by
  cases registration with
  | addClass entry =>
    exact mirrored_bind_eq (mirrored_classify blind entry) fun _ => mirrored_pure rfl
  | addReflection bulk =>
    have filtered : Mirrored alike Eq (Verifier.filter ⟨system, true⟩ bulk)
        (Verifier.filter ⟨system, false⟩ bulk) :=
      mirrored_bind_eq (mirrored_classifyAll blind bulk.entries) fun _ => mirrored_pure rfl
    exact mirrored_bind_eq filtered fun _ => mirrored_pure rfl
  | addProxy interfaces verify =>
    cases verify with
    | false => exact mirrored_pure rfl
    | true => exact mirrored_bind_eq (mirrored_checkAll blind interfaces) fun _ => mirrored_pure rfl
  | initializeTypes phase types =>
    exact mirrored_bind_eq (mirrored_dottedNames types) fun _ => mirrored_pure rfl
  | addResources | addResource | registerResource | initializeAt => exact mirrored_pure rfl

end Verifier

end Verification

/-! ## Sessions -/

section Sessions

variable {σ κ : Type} {alike : σ → σ → Prop}

/-- Two sessions, each with its other sides, that differ in the wish for lines on failed checks
alone. Their type systems take no notice of it and are in states that are alike. -/
structure Session.Twins (alike : σ → σ → Prop) (loud quiet : Session σ κ)
    (outside other : Outside σ κ) : Prop where
  /-- The first session wishes for lines. -/
  wished : loud.settings = { debugVerify := true }
  /-- The second session does not, and is the same otherwise. -/
  session : quiet = { loud with settings := { debugVerify := false } }
  /-- The type system takes no notice. -/
  blind : loud.system.DebugBlind alike
  /-- The states of the type systems are alike. -/
  types : alike outside.types other.types
  /-- The state of the engine is the same. -/
  engine : other.engine = outside.engine

/-- A step of one session beside the step of its twin. -/
structure Performed.Mirrored (alike : σ → σ → Prop) (loud quiet : Performed σ κ) : Prop where
  /-- The callers are told the same. -/
  reply : quiet.reply = loud.reply
  /-- The second step causes what is left of the events of the first. -/
  events : quiet.events = Event.quieted loud.events
  /-- The sessions are twins afterwards. -/
  twins : loud.session.Twins alike quiet.session loud.outside quiet.outside

namespace Session

variable {loud quiet : Session σ κ} {outside other : Outside σ κ}

/-- A verdict leads to the same in twins. -/
theorem Twins.settle (twins : loud.Twins alike quiet outside other) (verdict : Verdict) :
    (loud.settle verdict outside).Mirrored alike (quiet.settle verdict other) := by
  obtain ⟨wished, rfl, blind, types, engine⟩ := twins
  have unverified := Event.quieted_of_not_verification (loud.settle_verification verdict outside)
  cases verdict with
  | refused reply => exact ⟨rfl, rfl, wished, rfl, blind, types, engine⟩
  | accepted reply absorbed sent =>
    refine ⟨rfl, ?events, wished, rfl, blind, types, ?engine⟩
    case events =>
      rw [unverified]
      unfold Session.settle
      rw [engine]
    case engine =>
      unfold Session.settle
      rw [engine]

/-- A registration has the same effects in twins, but for lines on failed checks. -/
theorem Twins.register (twins : loud.Twins alike quiet outside other)
    (registration : Registration σ) :
    (loud.register registration outside).Mirrored alike (quiet.register registration other) := by
  obtain ⟨wished, session, blind, types, engine⟩ := twins
  have loudVerifier : loud.verifier = ⟨loud.system, true⟩ :=
    congrArg (fun settings : Settings => Verifier.mk loud.system settings.debugVerify) wished
  have quietVerifier : quiet.verifier = ⟨loud.system, false⟩ := congrArg Session.verifier session
  obtain ⟨verdict, asked, after⟩ := Verifier.mirrored_judge blind registration types
  unfold Session.register
  simp only [loudVerifier, quietVerifier, ← verdict]
  let judged := (Verifier.judge ⟨loud.system, true⟩ registration).run outside.types
  let mirrored := (Verifier.judge ⟨loud.system, false⟩ registration).run other.types
  have asking : loud.Twins alike quiet { outside with types := judged.after }
      { other with types := mirrored.after } := ⟨wished, session, blind, after, engine⟩
  obtain ⟨reply, events, next⟩ := asking.settle judged.value
  refine ⟨reply, ?_, next⟩
  rw [Event.quieted_append]
  exact congrArg₂ (· ++ ·) asked events

/-- A command has the same effects in twins, but for lines on failed checks, if the type system that
it sets takes no notice of the wish for them. -/
theorem Twins.perform (twins : loud.Twins alike quiet outside other) (command : Command σ κ)
    (blind : ∀ system, command = .setTypeSystem system → system.DebugBlind alike) :
    (loud.perform command outside).Mirrored alike (quiet.perform command other) := by
  cases command with
  | register registration => exact twins.register registration
  | setTypeSystem system =>
    obtain ⟨wished, rfl, _, types, engine⟩ := twins
    exact ⟨rfl, rfl, wished, rfl, blind system rfl, types, engine⟩
  | attach | detach =>
    obtain ⟨wished, rfl, remains, types, engine⟩ := twins
    exact ⟨rfl, rfl, wished, rfl, remains, types, engine⟩

section Runs

variable {commands : List (Command σ κ)}
  (twins : loud.Twins alike quiet outside other)
  (blind : ∀ system, .setTypeSystem system ∈ commands → system.DebugBlind alike)
include twins blind

/-- Step by step, a run has the same effects in twins, but for lines on failed checks. -/
theorem Twins.steps :
    List.Forall₂ (Performed.Mirrored alike) (loud.steps outside commands)
      (quiet.steps other commands) := by
  induction commands generalizing loud quiet outside other with
  | nil => exact List.Forall₂.nil
  | cons command rest hyp =>
    have step := twins.perform command fun system set =>
      blind system (List.mem_cons.mpr (Or.inl set.symm))
    exact List.Forall₂.cons step
      (hyp step.twins fun system set => blind system (List.mem_cons_of_mem _ set))

/-- Twins are twins at the end of a run. -/
theorem Twins.ending :
    (loud.ending outside commands).1.Twins alike (quiet.ending other commands).1
      (loud.ending outside commands).2 (quiet.ending other commands).2 := by
  induction commands generalizing loud quiet outside other with
  | nil => exact twins
  | cons command rest hyp =>
    have step := twins.perform command fun system set =>
      blind system (List.mem_cons.mpr (Or.inl set.symm))
    rw [ending_cons, ending_cons]
    exact hyp step.twins fun system set => blind system (List.mem_cons_of_mem _ set)

/-- What can be said of each step beside the step of its twin can be said of all steps. -/
theorem Twins.map_steps {γ : Type} {left right : Performed σ κ → γ}
    (each : ∀ {performed twin : Performed σ κ}, performed.Mirrored alike twin →
      left performed = right twin) :
    (loud.steps outside commands).map left = (quiet.steps other commands).map right := by
  rw [← List.forall₂_eq_eq_eq, List.forall₂_map_left_iff, List.forall₂_map_right_iff]
  exact (twins.steps blind).imp fun _ _ => each

/-- A run of the second twin causes what is left of the events of the first. -/
theorem Twins.events :
    quiet.events other commands = Event.quieted (loud.events outside commands) := by
  have left := twins.map_steps blind fun mirrored => mirrored.events.symm
  unfold Session.events Event.quieted
  rw [List.filterMap_flatMap, List.flatMap_def, List.flatMap_def]
  exact congrArg List.flatten left.symm

end Runs

/-- Twins are twins with recording engines. -/
theorem Twins.recording (twins : loud.Twins alike quiet outside other)
    (record : List (Delivery κ)) :
    loud.recording.Twins alike quiet.recording (outside.recording record)
      (other.recording record) where
  wished := twins.wished
  session := congrArg Session.recording twins.session
  blind := twins.blind
  types := twins.types
  engine := congrArg (·, record) twins.engine

/-- A run of twins delivers the same to their engines. -/
theorem Twins.deliveries {commands : List (Command σ κ)}
    (twins : loud.Twins alike quiet outside other)
    (blind : ∀ system, .setTypeSystem system ∈ commands → system.DebugBlind alike) :
    quiet.deliveries other commands = loud.deliveries outside commands := by
  have recorded : ∀ system, .setTypeSystem system ∈ commands.map Command.recording →
      system.DebugBlind alike := by
    intro system set
    obtain ⟨command, among, isSet⟩ := List.mem_map.mp set
    cases command with
    | setTypeSystem given =>
      obtain rfl : given = system := Command.setTypeSystem.inj isSet
      exact blind given among
    | _ => cases isSet
  exact congrArg Prod.snd ((twins.recording []).ending recorded).engine

/-- Two runs of the same commands from a new session, one with lines on failed checks wished for and
one without, with type systems whose answers are independent of the wish. After every step the
callers have been told the same, the same has been collected and is rendered alike, and the same
engine is attached, in the same state. Each step of the second run causes what is left of the events
of the first. Over the run the engines are delivered the same, the questions to the type system are
the same but for the wish that they pass on, and the log of the second run is the log of the first
without the lines on failed checks, and with the wish in its first line. -/
theorem debugVerify_diagnostics_only {system : TypeSystem σ} {outside : Outside σ κ}
    {commands : List (Command σ κ)} (start : alike outside.types outside.types)
    (blind : system.DebugBlind alike)
    (later : ∀ other, .setTypeSystem other ∈ commands → other.DebugBlind alike) :
    let loud : Session σ κ := Session.new { debugVerify := true } system
    let quiet : Session σ κ := Session.new { debugVerify := false } system
    let effects := fun performed : Performed σ κ =>
      (performed.reply, performed.session.config,
        BuildArguments.render performed.session.config.timing,
        performed.session.engine, performed.outside.engine)
    let loudLog := Event.diagnostics (loud.events outside commands)
    (loud.steps outside commands).map effects = (quiet.steps outside commands).map effects ∧
    (quiet.steps outside commands).map Performed.events =
      (loud.steps outside commands).map (fun performed => Event.quieted performed.events) ∧
    quiet.deliveries outside commands = loud.deliveries outside commands ∧
    Event.questions (quiet.events outside commands) =
      (Event.questions (loud.events outside commands)).map TypeCall.quieted ∧
    Event.diagnostics (opening loud.settings ++ loud.events outside commands) =
      .sessionOpened true :: loudLog ∧
    Event.diagnostics (opening quiet.settings ++ quiet.events outside commands) =
      .sessionOpened false :: loudLog.filter fun diagnostic => !diagnostic.isVerification := by
  intro loud quiet effects loudLog
  have twins : loud.Twins alike quiet outside outside := ⟨rfl, rfl, blind, start, rfl⟩
  have events : quiet.events outside commands = Event.quieted (loud.events outside commands) :=
    twins.events later
  refine ⟨?effects, ?events, twins.deliveries later, ?questions, rfl, ?log⟩
  case effects =>
    refine twins.map_steps later fun {performed twin} mirrored => ?_
    have same := mirrored.twins.session
    simp only [effects, mirrored.reply, mirrored.twins.engine, same]
  case events => exact (twins.map_steps later fun mirrored => mirrored.events.symm).symm
  case questions => rw [events, Event.questions_quieted]
  case log =>
    have left := Event.diagnostics_quieted (loud.events outside commands)
    rw [← events] at left
    exact congrArg (Diagnostic.sessionOpened false :: ·) left

end Session

end Sessions

/-! ## Types that keep a log of their own -/

/-- A type of the given name that notes down each check it fails, where diagnostics are wished for.
The state is the number of lookups and the notes. -/
def KnownType.talkative (type : KnownType) (name : String) : FoundType (Nat × List String) where
  dottedName := name
  isInterface state := (type.isInterface, state)
  verifyType debug state :=
    (type.isValid, (state.1, if debug && !type.isValid then name :: state.2 else state.2))
  verifyMembers entry debug state :=
    let complete := type.hasMembers entry
    (complete, (state.1, if debug && !complete then name :: state.2 else state.2))

namespace TypeSystem

/-- The type system of types that note down the checks they fail. Which types there are changes with
the number of lookups. -/
def talkative (types : Nat → String → Option KnownType) : TypeSystem (Nat × List String) where
  resolve name state :=
    ((types state.1 name).map (KnownType.talkative · name), (state.1 + 1, state.2))

/-- Notes do not bear on answers. -/
theorem debugBlind_talkative (types : Nat → String → Option KnownType) :
    (talkative types).DebugBlind fun state other => state.1 = other.1 := by
  rintro name ⟨lookups, notes⟩ ⟨_, otherNotes⟩ rfl
  refine ⟨?_, rfl⟩
  show Option.Rel _ ((types lookups name).map _) ((types lookups name).map _)
  cases types lookups name with
  | none => exact Option.Rel.none
  | some type =>
    exact Option.Rel.some ⟨rfl, fun _ _ same => ⟨rfl, same⟩, fun _ _ same => ⟨rfl, same⟩,
      fun _ _ _ same => ⟨rfl, same⟩⟩

end TypeSystem

/-- A run with an engine that fails now and then, against types that note down the checks they fail
and vanish after four lookups, and then against other types. -/
theorem Session.talkative_debugVerify_diagnostics_only :
    let vanishing : Nat → String → Option KnownType := fun lookups name =>
      if lookups < 4 then pluginTypes name else none
    let later : Nat → String → Option KnownType := fun _ name =>
      if name = "app.Broken" then some { isValid := false } else pluginTypes name
    let plugin : ClassEntry := { name := "app.Plugin", methods := [{ name := "load" }] }
    let commands : List (Command (Nat × List String) Nat) :=
      [.attach flakyEngine, .register (.addClass plugin),
        .register (.addReflection (.ofList [{ name := "app.Service" }, plugin])),
        .setTypeSystem (.talkative later), .register (.addClass { name := "app.Broken" }),
        .register (.addProxy ["app.Service", "app.Plugin", "app.Missing"] true),
        .register (.initializeAt .runTime .packages ["app"]), .detach]
    let outside : Outside (Nat × List String) Nat := ⟨(0, []), 0⟩
    let loud : Session (Nat × List String) Nat :=
      Session.new { debugVerify := true } (.talkative vanishing)
    let quiet : Session (Nat × List String) Nat :=
      Session.new { debugVerify := false } (.talkative vanishing)
    quiet.deliveries outside commands = loud.deliveries outside commands ∧
    Event.questions (quiet.events outside commands) =
      (Event.questions (loud.events outside commands)).map TypeCall.quieted ∧
    (loud.deliveries outside commands).length = 3 ∧
    (Event.questions (loud.events outside commands)).length = 15 ∧
    (Event.diagnostics (loud.events outside commands)).length = 5 ∧
    (Event.diagnostics (quiet.events outside commands)).length = 1 ∧
    (loud.ending outside commands).2.types = (8, ["app.Broken", "app.Plugin"]) ∧
    (quiet.ending outside commands).2.types = (8, []) := by
  intro vanishing later plugin commands outside loud quiet
  have blind := TypeSystem.debugBlind_talkative vanishing
  have set : ∀ system, .setTypeSystem system ∈ commands →
      system.DebugBlind fun state other => state.1 = other.1 := by
    intro system set
    obtain rfl : system = .talkative later := by simpa [commands] using set
    exact TypeSystem.debugBlind_talkative later
  obtain ⟨_, _, deliveries, questions, _, _⟩ :=
    debugVerify_diagnostics_only (rfl : outside.types.1 = outside.types.1) blind set
  exact ⟨deliveries, questions, by decide +kernel, by decide +kernel, by decide +kernel,
    by decide +kernel, by decide +kernel, by decide +kernel⟩

end ImageConfig
