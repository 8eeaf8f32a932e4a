import ImageConfig.Proofs.BulkRegistration

/-!
# Lines on failed checks

Where they are wished for, a check that fails leaves one line in the log, and nothing else leaves
such a line (`Session.failureLines_register`). A check can fail in two ways: its lookup finds no
type, or the type that it finds does not verify. Either is reported in its own place and neither
twice, so the check of a type and the check of members are the same as far as lines go
(`Verifier.failureLines_lookup`). An entry fails one check at most: its members are asked for only
once its type holds. Of a list of names, those after the first one that fails are not asked for.

Where lines are not wished for, there are none.
-/

namespace ImageConfig

open Traced

/-! ## Lines -/

namespace Diagnostic

/-- The level and the text of a diagnostic. -/
def asLogged (diagnostic : Diagnostic) : Level × String := (diagnostic.level, diagnostic.text)

/-- The line on a name whose type does not verify, where `found` says whether there is one. -/
def typeLine (name : String) (found : Bool) : Level × String :=
  match found with
  | true => (.debug, "event=verify_type module=verify status=invalid type=" ++ name)
  | false => (.debug, "event=verify_type module=verify status=missing type=" ++ name)

/-- The line on an entry whose members do not verify, where `found` says whether its type is still
there. -/
def membersLine (entry : ClassEntry) (found : Bool) : Level × String :=
  match found with
  | true => (.debug, "event=verify_members module=verify status=invalid type=" ++ entry.name ++
      " methods=" ++ toString entry.methods.length ++ " fields=" ++ toString entry.fields.length)
  | false => (.debug, "event=verify_members module=verify status=missing type=" ++ entry.name)

/-- The line on a name that does not stand for an interface, where `found` says whether it stands
for a type. -/
def interfaceLine (name : String) (found : Bool) : Level × String :=
  (.debug, "event=check_types module=verify status=rejected type=" ++ name ++ " resolved=" ++
    word found)

end Diagnostic

namespace Event

/-- The line of an event, if it reports a check that failed. -/
def failureLine? : Event → Option (Level × String)
  | logged diagnostic => if diagnostic.isVerification then some diagnostic.asLogged else none
  | _ => none

/-- The lines on failed checks among those of events, in order. -/
def failureLines (events : List Event) : List (Level × String) := events.filterMap failureLine?

/-- Lines of events that follow one another follow one another. -/
theorem failureLines_append (first second : List Event) :
    failureLines (first ++ second) = failureLines first ++ failureLines second :=
  List.filterMap_append

/-- Questions leave no line. -/
theorem failureLines_asked (calls : List TypeCall) : failureLines (calls.map .asked) = [] := by
  unfold failureLines
  rw [List.filterMap_map]
  exact List.filterMap_eq_nil_iff.mpr fun _ _ => rfl

/-- Of a view that shows nothing but verification, the other events may be left out. -/
theorem filterMap_filter_ofVerification {β : Type} {view : Event → Option β}
    (silent : ∀ event : Event, event.ofVerification = false → view event = none)
    (events : List Event) :
    (events.filter ofVerification).filterMap view = events.filterMap view := by
  rw [List.filterMap_filter]
  refine List.filterMap_congr fun event _ => ?_
  cases kind : event.ofVerification with
  | true => rfl
  | false => exact (silent event kind).symm

/-- Only verification leaves lines on failed checks. -/
theorem failureLines_filter_ofVerification (events : List Event) :
    failureLines (events.filter ofVerification) = failureLines events := by
  refine filterMap_filter_ofVerification (fun event other => ?_) events
  cases event with
  | asked call => cases other
  | notified notification taken => rfl
  | logged diagnostic => exact if_neg (ne_true_of_eq_false other)

end Event

variable {σ : Type}

/-! ## Checks that begin with a lookup -/

namespace Verifier

/-- A failure is reported once where that is wished for, and not otherwise. -/
theorem failureLines_reported {α : Type} (verifier : Verifier σ) (failed : Bool)
    {diagnostic : Diagnostic} (ofCheck : diagnostic.isVerification = true) (value : α) (state : σ) :
    Event.failureLines ((if failed = true then do verifier.report diagnostic; pure value
        else pure value).run state).events =
      if verifier.debug = true ∧ failed = true then [diagnostic.asLogged] else [] := by
  unfold report
  cases failed <;> cases verifier.debug <;>
    simp [Event.failureLines, Event.failureLine?, ofCheck]

/-- A lookup for a check reports a type that is missing. -/
theorem failureLines_find (verifier : Verifier σ) (check : Check) (name : String) (state : σ) :
    Event.failureLines ((verifier.find check name).run state).events =
      if verifier.debug = true ∧ (verifier.system.resolve name state).1.isNone = true then
        [(Diagnostic.missingType check name).asLogged]
      else [] := by
  have ofCheck : (Diagnostic.missingType check name).isVerification = true := rfl
  unfold find TypeSystem.find
  simp only [run_bind, run_query, run_emit, run_pure]
  exact verifier.failureLines_reported _ ofCheck _ _

/-- A lookup whose type is then asked a question leaves one line where the answer is no: that the
type is missing, or that the one found is not valid. -/
theorem failureLines_lookup (verifier : Verifier σ) (check : Check) (name : String)
    {ask : FoundType σ → Traced σ Bool} {question : FoundType σ → σ → Bool × σ}
    (asks : ∀ type state, ∃ call,
      (ask type).run state = ⟨(question type state).1, [.asked call], (question type state).2⟩)
    {invalid : Diagnostic} (ofCheck : invalid.isVerification = true) (state : σ) :
    Event.failureLines ((do
        match ← verifier.find check name with
        | none => return false
        | some type =>
          let valid ← ask type
          if !valid then verifier.report invalid
          return valid : Traced σ Bool).run state).events =
      if verifier.debug = true ∧ (verifier.system.answer name question state).1 = false then
        [if (verifier.system.resolve name state).1.isSome then invalid.asLogged
          else (Diagnostic.missingType check name).asLogged]
      else [] := by
  obtain ⟨found, after⟩ := verifier.run_find check name state
  rw [run_bind, Event.failureLines_append, failureLines_find, found, after]
  unfold TypeSystem.answer
  cases (verifier.system.resolve name state).1 with
  | none => simp [Event.failureLines]
  | some type =>
    let answered := question type (verifier.system.resolve name state).2
    obtain ⟨call, asked⟩ := asks type (verifier.system.resolve name state).2
    have silent : Event.failureLines [.asked call] = [] := rfl
    have reported := verifier.failureLines_reported (!answered.1) ofCheck answered.1 answered.2
    simp only [run_bind, asked, Event.failureLines_append, silent]
    rw [reported]
    simp [answered]

/-- The check of a type leaves a line where it fails. -/
theorem failureLines_verifyType (verifier : Verifier σ) (name : String) (state : σ) :
    Event.failureLines ((verifier.verifyType name).run state).events =
      if verifier.debug = true ∧ (verifier.typeAnswer name state).1 = false then
        [Diagnostic.typeLine name (verifier.system.resolve name state).1.isSome]
      else [] := by
  have asks (type : FoundType σ) (state : σ) : ∃ call, (type.askType verifier.debug).run state =
      ⟨(type.verifyType verifier.debug state).1, [.asked call],
        (type.verifyType verifier.debug state).2⟩ := ⟨_, rfl⟩
  have ofCheck : (Diagnostic.invalidType name).isVerification = true := rfl
  have lines := verifier.failureLines_lookup .type name asks ofCheck state
  refine lines.trans ?_
  cases (verifier.system.resolve name state).1.isSome <;> rfl

/-- The check of members leaves a line where it fails. -/
theorem failureLines_verifyMembers (verifier : Verifier σ) (entry : ClassEntry) (state : σ) :
    Event.failureLines ((verifier.verifyMembers entry).run state).events =
      if verifier.debug = true ∧ (verifier.memberAnswer entry state).1 = false then
        [Diagnostic.membersLine entry (verifier.system.resolve entry.name state).1.isSome]
      else [] := by
  have asks (type : FoundType σ) (state : σ) : ∃ call,
      (type.askMembers entry verifier.debug).run state =
        ⟨(type.verifyMembers entry verifier.debug state).1, [.asked call],
          (type.verifyMembers entry verifier.debug state).2⟩ := ⟨_, rfl⟩
  have ofCheck : (Diagnostic.invalidMembers entry).isVerification = true := rfl
  have lines := verifier.failureLines_lookup .members entry.name asks ofCheck state
  refine lines.trans ?_
  cases (verifier.system.resolve entry.name state).1.isSome <;> rfl

end Verifier

/-- Asking types for their dotted names leaves no line. -/
theorem failureLines_dottedNames (types : List (FoundType σ)) (state : σ) :
    Event.failureLines ((dottedNames types).run state).events = [] := by
  have silent : (dottedNames types).Emits fun event => event.failureLine?.isNone :=
    emits_dottedNames (fun _ => rfl) types
  refine List.filterMap_eq_nil_iff.mpr fun event happened => ?_
  exact Option.isNone_iff_eq_none.mp (silent state event happened)

/-! ## Entries -/

namespace Submission

/-- Whether the lookup for the check of the type finds one. -/
def found (submission : Submission σ) : Bool :=
  (submission.verifier.system.resolve submission.entry.name submission.state).1.isSome

/-- Whether the lookup for the check of the members, after that of the type, finds one. -/
def stillFound (submission : Submission σ) : Bool :=
  (submission.verifier.system.resolve submission.entry.name
    (submission.verifier.typeAnswer submission.entry.name submission.state).2).1.isSome

/-- The line on the check that the entry failed, if it failed one. A rejected entry failed the check
of its type, a downgraded one that of its members. -/
def failureLine? (submission : Submission σ) : Option (Level × String) :=
  match submission.outcome with
  | .accepted => none
  | .rejected => some (Diagnostic.typeLine submission.entry.name submission.found)
  | .downgraded => some (Diagnostic.membersLine submission.entry submission.stillFound)

end Submission

namespace Verifier

/-- The classification of an entry leaves the line on the check that the entry failed. -/
theorem failureLines_classify (verifier : Verifier σ) (entry : ClassEntry) (state : σ) :
    Event.failureLines ((verifier.classify entry).run state).events =
      if verifier.debug = true then
        (Submission.mk entry verifier state).failureLine?.toList
      else [] := by
  have outcome : (Submission.mk entry verifier state).outcome = _ :=
    verifier.value_classify entry state
  obtain ⟨valid, after⟩ := verifier.run_verifyType entry.name state
  unfold Submission.failureLine? Submission.found Submission.stillFound classify
  rw [outcome, run_bind, Event.failureLines_append, failureLines_verifyType, valid, after]
  cases (verifier.typeAnswer entry.name state).1 with
  | false => simp [Event.failureLines]
  | true =>
    generalize (verifier.typeAnswer entry.name state).2 = asked
    by_cases named : entry.membersSpecified = true
    · obtain ⟨complete, _⟩ := verifier.run_verifyMembers entry asked
      have lines := verifier.failureLines_verifyMembers entry asked
      simp only [named, ↓reduceIte, run_bind, Event.failureLines_append, lines, complete]
      cases (verifier.memberAnswer entry asked).1 <;> simp [Event.failureLines]
    · simp [named, Event.failureLines]

/-- Entries that are classified in order leave the lines on the checks that they failed, in order. -/
theorem failureLines_classifyAll (verifier : Verifier σ) (entries : List ClassEntry) (state : σ) :
    Event.failureLines ((verifier.classifyAll entries).run state).events =
      if verifier.debug = true then
        (verifier.submissions entries state).filterMap Submission.failureLine?
      else [] := by
  induction entries generalizing state with
  | nil => exact (ite_self _).symm
  | cons entry rest hyp =>
    have first := verifier.failureLines_classify entry state
    have later := hyp ((verifier.classify entry).run state).after
    rw [classifyAll, submissions]
    simp only [run_bind, run_pure, Event.failureLines_append, List.append_nil]
    rw [first, later]
    cases verifier.debug with
    | false => rfl
    | true =>
      simp only [↓reduceIte]
      cases line : (Submission.mk entry verifier state).failureLine? with
      | none => rw [List.filterMap_cons_none line, Option.toList_none, List.nil_append]
      | some text => rw [List.filterMap_cons_some line, Option.toList_some, List.singleton_append]

end Verifier

/-! ## Lists of names -/

/-- What the type system answers when it is asked of one name after the other whether it stands for
an interface, and the state in which that leaves it. -/
def TypeSystem.interfaceAnswers (system : TypeSystem σ) : List String → σ → List Bool × σ
  | [], state => ([], state)
  | name :: rest, state =>
    let answer := system.answer name FoundType.isInterface state
    let answers := system.interfaceAnswers rest answer.2
    (answer.1 :: answers.1, answers.2)

/-- Whether what a lookup finds is an interface is what the type system answers, and asking for it
is all that happens. -/
theorem TypeSystem.run_interface (system : TypeSystem σ) (name : String) (state : σ) :
    let found := system.resolve name state
    let answer := system.answer name FoundType.isInterface state
    ∃ types : List String, (TypeCondition.interface found.1).run found.2 =
      ⟨answer.1, (types.map TypeCall.isInterface).map .asked, answer.2⟩ := by
  dsimp only
  unfold TypeSystem.answer
  cases (system.resolve name state).1 with
  | none => exact ⟨[], rfl⟩
  | some type => exact ⟨[type.dottedName], rfl⟩

namespace Verifier

/-- The check of a list of names looks the first one up and asks whether it stands for an interface.
If so, it goes on with the others; if not, it reports that name and ends. -/
theorem run_checkAll_cons (verifier : Verifier σ) (name : String) (rest : List String)
    (state : σ) :
    let answer := verifier.system.answer name FoundType.isInterface state
    let found := (verifier.system.resolve name state).1.isSome
    let next : Traced σ Bool :=
      if answer.1 = true then verifier.checkAll .interface rest
      else do
        verifier.report (.failedCondition name found)
        return false
    let later := next.run answer.2
    ∃ types : List String, (verifier.checkAll .interface (name :: rest)).run state =
      ⟨later.value,
        (TypeCall.resolve name found :: types.map .isInterface).map .asked ++ later.events,
        later.after⟩ := by
  obtain ⟨types, asked⟩ := verifier.system.run_interface name state
  refine ⟨types, ?_⟩
  rw [checkAll]
  unfold TypeSystem.find
  simp only [run_bind, run_query, run_emit, run_pure, asked, List.append_nil, List.nil_append,
    List.map_cons, List.cons_append]

/-- A list of names is found to stand for interfaces, and leaves no line, if the type system says so
of each name. Otherwise the check leaves one line, on the first name of which it does not. -/
theorem failureLines_checkAll (verifier : Verifier σ) (names : List String) (state : σ) :
    let checked := (verifier.checkAll .interface names).run state
    checked.value = true ∧ Event.failureLines checked.events = [] ∧
      (verifier.system.interfaceAnswers names state).1 = List.replicate names.length true ∨
    checked.value = false ∧ ∃ before name after, names = before ++ name :: after ∧
      (verifier.system.interfaceAnswers (before ++ [name]) state).1 =
        List.replicate before.length true ++ [false] ∧
      Event.failureLines checked.events =
        let asked := (verifier.system.interfaceAnswers before state).2
        if verifier.debug = true then
          [Diagnostic.interfaceLine name (verifier.system.resolve name asked).1.isSome]
        else [] := by
  induction names generalizing state with
  | nil => exact Or.inl ⟨rfl, rfl, rfl⟩
  | cons name rest hyp =>
    obtain ⟨types, checked⟩ := verifier.run_checkAll_cons name rest state
    dsimp only
    rw [checked]
    dsimp only
    rw [Event.failureLines_append, Event.failureLines_asked, List.nil_append]
    cases holds : (verifier.system.answer name FoundType.isInterface state).1 with
    | false =>
      have ofCheck : (Diagnostic.failedCondition name
          (verifier.system.resolve name state).1.isSome).isVerification = true := rfl
      have reported := verifier.failureLines_reported true ofCheck false
        (verifier.system.answer name FoundType.isInterface state).2
      simp only [↓reduceIte, and_true] at reported
      refine Or.inr ⟨rfl, [], name, rest, rfl, ?answers, reported⟩
      case answers =>
        show [(verifier.system.answer name FoundType.isInterface state).1] = [false]
        rw [holds]
    | true =>
      have first (names : List String) : (verifier.system.interfaceAnswers (name :: names) state).1 =
          true :: (verifier.system.interfaceAnswers names
            (verifier.system.answer name FoundType.isInterface state).2).1 :=
        congrArg (· :: _) holds
      simp only [↓reduceIte]
      obtain ⟨all, silent, answers⟩ | ⟨some, before, other, after, listed, answers, line⟩ :=
        hyp (verifier.system.answer name FoundType.isInterface state).2
      · refine Or.inl ⟨all, silent, ?_⟩
        rw [first, answers]
        rfl
      · refine Or.inr ⟨some, name :: before, other, after, congrArg (name :: ·) listed, ?_, line⟩
        rw [List.cons_append, first, answers]
        rfl

end Verifier

/-! ## Registrations -/

/-- The registration is of something that may have to be checked. -/
def Registration.isChecked : Registration σ → Bool
  | .addClass _ | .addReflection _ | .addProxy _ _ => true
  | _ => false

namespace Session

variable {κ : Type}

/-- The settings of a session stay as they are over a run. -/
theorem settings_ending (session : Session σ κ) (outside : Outside σ κ)
    (commands : List (Command σ κ)) :
    (session.ending outside commands).1.settings = session.settings := by
  induction commands generalizing session outside with
  | nil => rfl
  | cons command rest hyp =>
    have step : (session.perform command outside).session.settings = session.settings := by
      cases command with
      | register registration =>
        show (session.register registration outside).session.settings = session.settings
        rw [register_session]
      | setTypeSystem | attach | detach => rfl
    rw [ending_cons, hyp, step]

/-- The lines of a registration on failed checks are those of its verification. -/
theorem failureLines_register (session : Session σ κ) (registration : Registration σ)
    (outside : Outside σ κ) :
    Event.failureLines (session.register registration outside).events =
      Event.failureLines ((session.verifier.judge registration).run outside.types).events := by
  rw [← Event.failureLines_filter_ofVerification, register_verification]

/-- An entry that is submitted alone leaves the line on the check that it failed. -/
theorem failureLines_addClass (session : Session σ κ) (outside : Outside σ κ)
    (entry : ClassEntry) :
    Event.failureLines (session.register (.addClass entry) outside).events =
      if session.settings.debugVerify = true then
        (session.submission outside entry).failureLine?.toList
      else [] := by
  have classified : ((session.verifier.judge (.addClass entry)).run outside.types).events =
      ((session.verifier.classify entry).run outside.types).events := List.append_nil _
  rw [failureLines_register, classified]
  exact session.verifier.failureLines_classify entry outside.types

/-- A collection leaves the lines on the checks that its entries failed, in order. -/
theorem failureLines_addReflection (session : Session σ κ) (outside : Outside σ κ)
    (bulk : Reflection) :
    Event.failureLines (session.register (.addReflection bulk) outside).events =
      if session.settings.debugVerify = true then
        (session.verifier.submissions bulk.entries outside.types).filterMap
          Submission.failureLine?
      else [] := by
  have classified : ((session.verifier.judge (.addReflection bulk)).run outside.types).events =
      ((session.verifier.classifyAll bulk.entries).run outside.types).events :=
    (List.append_nil _).trans (List.append_nil _)
  rw [failureLines_register, classified]
  exact session.verifier.failureLines_classifyAll bulk.entries outside.types

/-- The caller is told what is left of a collection whose entries have the outcomes of their
submissions. -/
theorem addReflection_reply (session : Session σ κ) (outside : Outside σ κ) (bulk : Reflection) :
    (session.register (.addReflection bulk) outside).reply =
      .survivors (.ofOutcomes bulk
        ((session.verifier.submissions bulk.entries outside.types).map Submission.outcome)) := by
  have outcomes := session.verifier.value_classifyAll bulk.entries outside.types
  rw [register_reply, ← outcomes]
  rfl

/-- A proxy that is registered leaves no line. One that is not leaves a line on the first name that
does not stand for an interface. -/
theorem failureLines_addProxy (session : Session σ κ) (outside : Outside σ κ) (interfaces : Proxy)
    (verify : Bool) :
    let called := session.register (.addProxy interfaces verify) outside
    let lines := Event.failureLines called.events
    called.reply = .registered true ∧ lines = [] ∨
    called.reply = .registered false ∧ verify = true ∧
      ∃ before name after, interfaces = before ++ name :: after ∧
        (session.system.interfaceAnswers (before ++ [name]) outside.types).1 =
          List.replicate before.length true ++ [false] ∧
        lines =
          let asked := (session.system.interfaceAnswers before outside.types).2
          if session.settings.debugVerify = true then
            [Diagnostic.interfaceLine name (session.system.resolve name asked).1.isSome]
          else [] := by
  dsimp only
  rw [failureLines_register, register_reply, verdict_addProxy]
  cases verify with
  | false => exact Or.inl ⟨rfl, rfl⟩
  | true =>
    have checked : ((session.verifier.judge (.addProxy interfaces true)).run outside.types).events =
        ((session.verifier.checkAll .interface interfaces).run outside.types).events :=
      List.append_nil _
    rw [checked]
    obtain ⟨all, silent, _⟩ | ⟨some, first⟩ :=
      session.verifier.failureLines_checkAll interfaces outside.types
    · rw [all, silent]
      exact Or.inl ⟨rfl, rfl⟩
    · rw [some]
      exact Or.inr ⟨rfl, rfl, first⟩

/-- A registration that is not checked leaves no line. -/
theorem failureLines_unchecked (session : Session σ κ) (outside : Outside σ κ)
    {registration : Registration σ} (unchecked : registration.isChecked = false) :
    Event.failureLines (session.register registration outside).events = [] := by
  rw [failureLines_register]
  cases registration with
  | addClass | addReflection | addProxy => cases unchecked
  | initializeTypes phase types =>
    have asked : ((session.verifier.judge (.initializeTypes phase types)).run
        outside.types).events = ((dottedNames types).run outside.types).events :=
      List.append_nil _
    rw [asked, failureLines_dottedNames]
  | addResources | addResource | registerResource | initializeAt => rfl

/-- Where lines on failed checks are not wished for, no command leaves any. -/
theorem failureLines_unwished (session : Session σ κ)
    (unwished : session.settings.debugVerify = false) (outside : Outside σ κ)
    (command : Command σ κ) :
    Event.failureLines (session.perform command outside).events = [] := by
  have silent {lines : List (Level × String)} :
      (if session.settings.debugVerify = true then lines else []) = [] :=
    if_neg (ne_true_of_eq_false unwished)
  cases command with
  | setTypeSystem | attach | detach => rfl
  | register registration =>
    cases registration with
    | addClass entry => exact (session.failureLines_addClass outside entry).trans silent
    | addReflection bulk => exact (session.failureLines_addReflection outside bulk).trans silent
    | addProxy interfaces verify =>
      obtain ⟨_, none⟩ | ⟨_, _, _, _, _, _, _, lines⟩ :=
        session.failureLines_addProxy outside interfaces verify
      · exact none
      · exact lines.trans silent
    | _ => exact session.failureLines_unchecked outside rfl

/-- At the end of any run from a new session, with lines on failed checks wished for, an entry that
is registered leaves the line on the check that it failed, a collection those of its entries in
order, a proxy that is refused one on the first name that does not stand for an interface, and
nothing else leaves any. Where such lines are not wished for, there are none. -/
theorem failureLines_of_failures (system : TypeSystem σ) (outside : Outside σ κ)
    (commands : List (Command σ κ)) :
    let loud : Session σ κ :=
      ((Session.new { debugVerify := true } system).ending outside commands).1
    let quiet : Session σ κ :=
      ((Session.new { debugVerify := false } system).ending outside commands).1
    (∀ (command : Command σ κ) (next : Outside σ κ),
      let performed := loud.perform command next
      let lines := Event.failureLines performed.events
      match command with
      | .register (.addClass entry) =>
        let submission := loud.submission next entry
        performed.reply = .outcome submission.outcome ∧ lines = submission.failureLine?.toList
      | .register (.addReflection bulk) =>
        let submissions := loud.verifier.submissions bulk.entries next.types
        submissions.map Submission.entry = bulk.entries ∧
        performed.reply = .survivors (.ofOutcomes bulk (submissions.map Submission.outcome)) ∧
        lines = submissions.filterMap Submission.failureLine?
      | .register (.addProxy interfaces verify) =>
        performed.reply = .registered true ∧ lines = [] ∨
        performed.reply = .registered false ∧ verify = true ∧
          ∃ before name after, interfaces = before ++ name :: after ∧
            (loud.system.interfaceAnswers (before ++ [name]) next.types).1 =
              List.replicate before.length true ++ [false] ∧
            let asked := (loud.system.interfaceAnswers before next.types).2
            lines = [Diagnostic.interfaceLine name (loud.system.resolve name asked).1.isSome]
      | _ => lines = []) ∧
    ∀ (command : Command σ κ) (next : Outside σ κ),
      Event.failureLines (quiet.perform command next).events = [] := by
  intro loud quiet
  have wished : loud.settings.debugVerify = true :=
    congrArg Settings.debugVerify (settings_ending _ outside commands)
  have unwished : quiet.settings.debugVerify = false :=
    congrArg Settings.debugVerify (settings_ending _ outside commands)
  refine ⟨fun command next => ?_, fun command next => quiet.failureLines_unwished unwished _ _⟩
  cases command with
  | setTypeSystem | attach | detach => rfl
  | register registration =>
    cases registration with
    | addClass entry =>
      exact ⟨loud.addClass_reply next entry,
        (loud.failureLines_addClass next entry).trans (if_pos wished)⟩
    | addReflection bulk =>
      exact ⟨loud.verifier.map_entry_submissions bulk.entries next.types,
        loud.addReflection_reply next bulk,
        (loud.failureLines_addReflection next bulk).trans (if_pos wished)⟩
    | addProxy interfaces verify =>
      have lines := loud.failureLines_addProxy next interfaces verify
      simp only [wished, ↓reduceIte] at lines
      exact lines
    | _ => exact loud.failureLines_unchecked next rfl

end Session

end ImageConfig
