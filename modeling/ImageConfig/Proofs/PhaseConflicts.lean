import ImageConfig.Proofs.History
import ImageConfig.Proofs.Recording

/-!
# Names requested for both phases

A name that is requested for a phase while the other phase holds it is reported and stored all the
same. A request names one phase, so it cannot conflict with itself, and what it adds is held for
both phases afterwards exactly if it was before or is reported now
(`Configuration.names_absorb_iff`). Over a run, a name is held for both phases exactly if a conflict
on it was reported on the way (`Session.names_ending_iff`), whichever phase came first.

A line in a log says all of that. The text of a conflict can be read back, whatever the name is
(`Diagnostic.conflictText_injective`): the kind of target is known from its first letter, and the
phase from the end of the line, where no name can reach.
-/

namespace ImageConfig

/-! ## Lines -/

namespace Diagnostic

/-- The line in a log on a name that is requested for a phase while the other phase holds it. -/
def conflictLine (phase : Phase) (target : Target) (name : String) : Level × String :=
  (.warn, "event=init_conflict module=collector status=allowed " ++ target.name ++ "=" ++ name ++
    " phase=" ++ phase.name)

/-- What follows a text does not change the letters of it. -/
theorem getElem?_toList_append {first : String} {index : Nat} {letter : Char}
    (stands : first.toList[index]? = some letter) (second : String) :
    (first ++ second).toList[index]? = some letter := by
  have inside : index < first.toList.length := (List.getElem?_eq_some_iff.mp stands).1
  rw [String.toList_append, List.getElem?_append_left inside, stands]

/-- A line on a failed notification begins in another way than one on a conflict. -/
theorem text_forwardFailure_ne (operation : String) (error : EngineError) (phase : Phase)
    (target : Target) (name : String) :
    (forwardFailure operation error).text ≠ (phaseConflict phase target name).text := by
  -- The seventh letter is the first of the event's name.
  have forwarded : (forwardFailure operation error).text.toList[6]? = some 'c' := by
    refine getElem?_toList_append (getElem?_toList_append (getElem?_toList_append ?_ _) _) _
    decide +kernel
  have conflict : (phaseConflict phase target name).text.toList[6]? = some 'i' := by
    refine getElem?_toList_append (getElem?_toList_append (getElem?_toList_append
      (getElem?_toList_append (getElem?_toList_append ?_ _) _) _) _) _
    decide +kernel
  intro same
  rw [same, conflict] at forwarded
  exact absurd forwarded (by decide)

/-- After any fixed head, the kind of target, the name and the phase of a conflict can be read back
from the text, whatever letters the name has. -/
theorem conflictText_injective (head : String) {phase otherPhase : Phase}
    {target otherTarget : Target} {name otherName : String}
    (same : head ++ target.name ++ "=" ++ name ++ " phase=" ++ phase.name =
      head ++ otherTarget.name ++ "=" ++ otherName ++ " phase=" ++ otherPhase.name) :
    phase = otherPhase ∧ target = otherTarget ∧ name = otherName := by
  have letters := congrArg String.toList same
  simp only [String.toList_append, List.append_assoc] at letters
  have afterHead := List.append_cancel_left letters
  have sameTarget : target = otherTarget := by
    have first := congrArg (fun text => text[0]?) afterHead
    cases target <;> cases otherTarget
    case classes.classes => rfl
    case packages.packages => rfl
    all_goals simp [Target.name] at first
  rw [sameTarget] at afterHead
  have afterTarget := List.append_cancel_left (List.append_cancel_left afterHead)
  have samePhase : phase = otherPhase := by
    -- The sixth letter from the end tells the phases apart.
    have last := congrArg (fun text => text.reverse[5]?) afterTarget
    cases phase <;> cases otherPhase
    case buildTime.buildTime => rfl
    case runTime.runTime => rfl
    all_goals simp [Phase.name] at last
  rw [samePhase] at afterTarget
  exact ⟨samePhase, sameTarget, String.toList_inj.mp (List.append_cancel_right afterTarget)⟩

/-- A line is the one on a conflict exactly if it is about that conflict. -/
theorem line_eq_conflictLine {diagnostic : Diagnostic} {phase : Phase} {target : Target}
    {name : String} :
    (diagnostic.level, diagnostic.text) = conflictLine phase target name ↔
      diagnostic = .phaseConflict phase target name := by
  constructor
  · intro same
    obtain ⟨sameLevel, sameText⟩ := Prod.mk.inj same
    cases diagnostic with
    | phaseConflict otherPhase otherTarget otherName =>
      obtain ⟨rfl, rfl, rfl⟩ := conflictText_injective _ sameText
      rfl
    | forwardFailure operation error =>
      exact absurd sameText (text_forwardFailure_ne operation error phase target name)
    | _ => nomatch sameLevel
  · intro same
    rw [same]
    rfl

end Diagnostic

namespace Event

/-- The lines among events, each with its level, in order. -/
def lines (events : List Event) : List (Level × String) :=
  (diagnostics events).map fun diagnostic => (diagnostic.level, diagnostic.text)

/-- The event leaves no line in a log. -/
def silent : Event → Bool
  | logged _ => false
  | _ => true

/-- Silent events have no diagnostics. -/
theorem diagnostics_of_silent {events : List Event}
    (ofKind : ∀ event ∈ events, event.silent = true) : diagnostics events = [] := by
  refine List.filterMap_eq_nil_iff.mpr fun event happened => ?_
  have kind := ofKind event happened
  cases event with
  | logged diagnostic => cases kind
  | _ => rfl

/-- What verification reports is no conflict. -/
theorem phaseConflict_not_mem_of_verification {events : List Event}
    (ofKind : ∀ event ∈ events, event.ofVerification = true) (phase : Phase) (target : Target)
    (name : String) : .phaseConflict phase target name ∉ diagnostics events := by
  intro among
  obtain ⟨event, happened, isLine⟩ := List.mem_filterMap.mp among
  have kind := ofKind event happened
  cases event with
  | logged diagnostic =>
    obtain rfl : diagnostic = .phaseConflict phase target name := Option.some.inj isLine
    cases kind
  | _ => cases isLine

/-- The line on a conflict is among the lines of events exactly if the conflict was reported. -/
theorem conflictLine_mem_lines {events : List Event} {phase : Phase} {target : Target}
    {name : String} :
    Diagnostic.conflictLine phase target name ∈ lines events ↔
      .phaseConflict phase target name ∈ diagnostics events := by
  rw [lines, List.mem_map]
  constructor
  · rintro ⟨diagnostic, among, same⟩
    rw [← Diagnostic.line_eq_conflictLine.mp same]
    exact among
  · exact fun among => ⟨_, among, rfl⟩

end Event

/-! ## Sets -/

/-- A notification requests names for one phase of a kind of target at most. -/
theorem Notification.not_mem_timed_opposite {notification : Notification} {phase : Phase}
    {target : Target} {name otherName : String}
    (requested : name ∈ notification.timed phase target) :
    otherName ∉ notification.timed phase.opposite target := by
  cases notification with
  | initializeAt own kind names => cases own <;> cases phase <;> simp_all [timed, Phase.opposite]
  | _ => exact absurd requested List.not_mem_nil

namespace Configuration

/-- The names of a phase and target are those before and then the requested ones that are new. -/
theorem toList_names_absorb (config : Configuration) (notification : Notification) (phase : Phase)
    (target : Target) :
    ((config.absorb notification).timing.names phase target).toList =
      appendAllNew (config.timing.names phase target).toList
        (notification.timed phase target) := by
  have names := config.timing_absorbAll [notification] phase target
  rw [List.flatMap_singleton] at names
  exact names

/-- A phase and target hold the names that they held before and those that are requested. -/
theorem mem_names_absorb {config : Configuration} {notification : Notification} {phase : Phase}
    {target : Target} {name : String} :
    name ∈ (config.absorb notification).timing.names phase target ↔
      name ∈ config.timing.names phase target ∨ name ∈ notification.timed phase target := by
  rw [OrderedSet.mem_def, toList_names_absorb, mem_appendAllNew]
  rfl

/-- A conflict is reported exactly on the requested names that the other phase holds. -/
theorem phaseConflict_mem_conflicts {config : Configuration} {notification : Notification}
    {phase : Phase} {target : Target} {name : String} :
    .phaseConflict phase target name ∈ config.conflicts notification ↔
      name ∈ notification.timed phase target ∧
        name ∈ config.timing.names phase.opposite target := by
  cases notification with
  | initializeAt requested kind names =>
    by_cases own : requested = phase ∧ kind = target
    · obtain ⟨rfl, rfl⟩ := own
      simp [conflicts, Notification.timed, Timing.conflicts, OrderedSet.contains]
    · have other : ∀ held, Diagnostic.phaseConflict requested kind held ≠
          .phaseConflict phase target name := by
        intro held same
        cases same
        exact own ⟨rfl, rfl⟩
      simp [conflicts, Notification.timed, own, other]
  | _ => simp [conflicts, Notification.timed]

/-- After a notification a name is held for both phases exactly if it was before or a conflict on
it is reported. -/
theorem names_absorb_iff (config : Configuration) (notification : Notification) (target : Target)
    (name : String) :
    (∀ phase, name ∈ (config.absorb notification).timing.names phase target) ↔
      (∀ phase, name ∈ config.timing.names phase target) ∨
        ∃ phase, .phaseConflict phase target name ∈ config.conflicts notification := by
  simp only [mem_names_absorb, phaseConflict_mem_conflicts]
  constructor
  · intro now
    by_cases before : ∀ phase, name ∈ config.timing.names phase target
    · exact Or.inl before
    · obtain ⟨phase, missing⟩ := not_forall.mp before
      have requested := (now phase).resolve_left missing
      have held := (now phase.opposite).resolve_right
        (Notification.not_mem_timed_opposite requested)
      exact Or.inr ⟨phase, requested, held⟩
  · rintro (before | ⟨phase, requested, held⟩) other
    · exact Or.inl (before other)
    · cases phase <;> cases other
      case buildTime.buildTime => exact Or.inr requested
      case runTime.runTime => exact Or.inr requested
      case buildTime.runTime => exact Or.inl held
      case runTime.buildTime => exact Or.inl held

end Configuration

/-- No delivery that failed is reported as a conflict. -/
theorem Delivery.phaseConflict_not_mem_reports {κ : Type} {deliveries : List (Delivery κ)}
    {phase : Phase} {target : Target} {name : String} :
    .phaseConflict phase target name ∉ deliveries.filterMap Delivery.report := by
  intro among
  obtain ⟨delivery, _, reports⟩ := List.mem_filterMap.mp among
  obtain ⟨error, _, other⟩ := Option.map_eq_some_iff.mp reports
  cases other

/-! ## Runs -/

namespace Session

variable {σ κ : Type}

/-- The diagnostics of a registration are those of its verification, then a report on each conflict,
and then on each delivery that failed. -/
theorem diagnostics_register (session : Session σ κ) (registration : Registration σ)
    (outside : Outside σ κ) :
    Event.diagnostics (session.register registration outside).events =
      Event.diagnostics ((session.verifier.judge registration).run outside.types).events ++
        ((session.absorbed outside (.register registration)).flatMap session.config.conflicts ++
          (session.delivered outside (.register registration)).filterMap Delivery.report) := by
  rw [register_events, Event.diagnostics_append, diagnostics_settle]
  rfl

/-- A conflict is reported in a step exactly if what the step adds conflicts. -/
theorem phaseConflict_mem_perform {session : Session σ κ} {command : Command σ κ}
    {outside : Outside σ κ} {phase : Phase} {target : Target} {name : String} :
    .phaseConflict phase target name ∈
        Event.diagnostics (session.perform command outside).events ↔
      .phaseConflict phase target name ∈
        (session.absorbed outside command).flatMap session.config.conflicts := by
  cases command with
  | register registration =>
    have unverified := Event.phaseConflict_not_mem_of_verification
      (session.verifier.emits_judge registration outside.types) phase target name
    change _ ∈ Event.diagnostics (session.register registration outside).events ↔ _
    rw [diagnostics_register, List.mem_append, List.mem_append, or_iff_right unverified,
      or_iff_left Delivery.phaseConflict_not_mem_reports]
  | setTypeSystem | attach | detach => exact iff_of_false List.not_mem_nil List.not_mem_nil

/-- After a step a name is held for both phases exactly if it was before or a conflict on it is
reported in the step. -/
theorem names_perform_iff (session : Session σ κ) (command : Command σ κ)
    (outside : Outside σ κ) (target : Target) (name : String) :
    (∀ phase, name ∈
        (session.perform command outside).session.config.timing.names phase target) ↔
      (∀ phase, name ∈ session.config.timing.names phase target) ∨
        ∃ phase, .phaseConflict phase target name ∈
          Event.diagnostics (session.perform command outside).events := by
  simp only [phaseConflict_mem_perform]
  cases command with
  | register registration =>
    change (∀ phase, name ∈
      (session.register registration outside).session.config.timing.names phase target) ↔ _
    rw [register_session, absorbed]
    cases (session.verdict registration outside).absorbed? with
    | none => simp [Configuration.absorbAll]
    | some notification =>
      rw [Option.toList_some, List.flatMap_singleton]
      exact session.config.names_absorb_iff notification target name
  | setTypeSystem | attach | detach => simp [absorbed, perform]

/-- At the end of a run a name is held for both phases exactly if it was at the beginning or a
conflict on it was reported on the way. -/
theorem names_ending_iff (session : Session σ κ) (outside : Outside σ κ)
    (commands : List (Command σ κ)) (target : Target) (name : String) :
    (∀ phase, name ∈ (session.ending outside commands).1.config.timing.names phase target) ↔
      (∀ phase, name ∈ session.config.timing.names phase target) ∨
        ∃ phase, .phaseConflict phase target name ∈
          Event.diagnostics (session.events outside commands) := by
  induction commands generalizing session outside with
  | nil => simp [ending, events, steps, Event.diagnostics]
  | cons command rest hyp =>
    have reported : ∀ phase, .phaseConflict phase target name ∈
        Event.diagnostics (session.events outside (command :: rest)) ↔
          .phaseConflict phase target name ∈
              Event.diagnostics (session.perform command outside).events ∨
            .phaseConflict phase target name ∈
              Event.diagnostics ((session.perform command outside).session.events
                (session.perform command outside).outside rest) := by
      intro phase
      rw [← List.mem_append, ← Event.diagnostics_append]
      rfl
    simp only [reported, exists_or]
    rw [ending_cons, hyp, names_perform_iff, or_assoc]

/-- A registration that requests initialization is verified without a line in the log. -/
theorem silent_judge_of_initialization (verifier : Verifier σ) {registration : Registration σ}
    {request : Phase × Target × List String}
    (requests : registration.initialization? = some request) :
    (verifier.judge registration).Emits Event.silent := by
  cases registration with
  | initializeAt phase target names => exact Traced.emits_pure _
  | initializeTypes phase types =>
    exact Traced.emits_bind (emits_dottedNames (fun _ => rfl) types) fun _ => Traced.emits_pure _
  | _ => cases requests

/-- A registration that requests initialization adds just that. -/
theorem absorbed_of_initialization (session : Session σ κ) (outside : Outside σ κ)
    {registration : Registration σ} {phase : Phase} {target : Target} {names : List String}
    (requests : registration.initialization? = some (phase, target, names)) :
    session.absorbed outside (.register registration) = [.initializeAt phase target names] := by
  have effect : ∀ reply, registration.effect? reply = some (.initializeAt phase target names) := by
    intro reply
    cases registration with
    | initializeAt | initializeTypes =>
      cases requests
      cases reply <;> rfl
    | _ => cases requests
  rw [absorbed, absorbed?_verdict, effect]
  rfl

/-- A registration that requests initialization leaves a line for each position of its names that
the other phase holds, and then one for each delivery that failed. It stores every one of its names,
in conflict or not, and leaves the other phase as it is. -/
theorem register_of_initialization (session : Session σ κ) (outside : Outside σ κ)
    {registration : Registration σ} {phase : Phase} {target : Target} {names : List String}
    (requests : registration.initialization? = some (phase, target, names)) :
    let timing := session.config.timing
    let called := session.register registration outside
    let later := called.session.config.timing
    Event.lines called.events =
      (names.filter fun name => name ∈ timing.names phase.opposite target).map
          (Diagnostic.conflictLine phase target) ++
        (session.delivered outside (.register registration)).filterMap Delivery.line ∧
    (∀ name ∈ names, name ∈ later.names phase target) ∧
    later.names phase.opposite target = timing.names phase.opposite target := by
  intro timing called later
  let request : Notification := .initializeAt phase target names
  have quiet := Event.diagnostics_of_silent
    (silent_judge_of_initialization session.verifier requests outside.types)
  have adds : session.absorbed outside (.register registration) = [request] :=
    session.absorbed_of_initialization outside requests
  have stored : called.session.config = session.config.absorb request :=
    (congrArg Session.config (session.register_session registration outside)).trans
      (congrArg session.config.absorbAll adds)
  have timed : later = (session.config.absorb request).timing := congrArg Configuration.timing stored
  refine ⟨?lines, ?names, ?opposite⟩
  case lines =>
    rw [Event.lines, diagnostics_register, quiet, adds, List.nil_append, List.flatMap_singleton,
      List.map_append, Delivery.map_filterMap_report]
    exact congrArg (· ++ _) List.map_map
  case names =>
    intro name submitted
    have requested : name ∈ request.timed phase target := by
      rwa [Notification.timed, if_pos ⟨rfl, rfl⟩]
    rw [timed]
    exact Configuration.mem_names_absorb.mpr (Or.inr requested)
  case opposite =>
    have untouched : request.timed phase.opposite target = [] := by cases phase <;> rfl
    refine OrderedSet.ext_toList ?_
    rw [timed, Configuration.toList_names_absorb, untouched]
    rfl

/-- At the end of a run from a new session, the names held for both phases are exactly those on
which a conflict stands in the log. A call for initialization then leaves a line for each position
of its names that the other phase holds, in order, and then one for each delivery that failed; it
stores every one of its names, in conflict or not, and leaves the other phase as it is. -/
theorem conflictLine_mem_iff_names (settings : Settings) (system : TypeSystem σ)
    (outside : Outside σ κ) (commands : List (Command σ κ)) :
    let opened : Session σ κ := Session.new settings system
    let log := Event.lines (opening settings ++ opened.events outside commands)
    let now := opened.ending outside commands
    let timing := now.1.config.timing
    (∀ target name,
      (∃ phase, Diagnostic.conflictLine phase target name ∈ log) ↔
        name ∈ timing.names .buildTime target ∧ name ∈ timing.names .runTime target) ∧
    ∀ (registration : Registration σ) phase target names,
      registration.initialization? = some (phase, target, names) →
      let called := now.1.register registration now.2
      let later := called.session.config.timing
      Event.lines called.events =
        (names.filter fun name => name ∈ timing.names phase.opposite target).map
            (Diagnostic.conflictLine phase target) ++
          (now.1.delivered now.2 (.register registration)).filterMap Delivery.line ∧
      (∀ name ∈ names, name ∈ later.names phase target) ∧
      later.names phase.opposite target = timing.names phase.opposite target := by
  intro opened log now timing
  refine ⟨?run, ?call⟩
  case run =>
    intro target name
    have held := opened.names_ending_iff outside commands target name
    have fresh : ¬ ∀ phase, name ∈ opened.config.timing.names phase target := fun all => by
      cases target <;> exact absurd (all .buildTime) List.not_mem_nil
    have logged : ∀ phase, Diagnostic.conflictLine phase target name ∈ log ↔
        .phaseConflict phase target name ∈
          Event.diagnostics (opened.events outside commands) := by
      intro phase
      have other : .phaseConflict phase target name ∉ Event.diagnostics (opening settings) := by
        simp [opening, Event.diagnostics]
      rw [Event.conflictLine_mem_lines, Event.diagnostics_append, List.mem_append]
      exact or_iff_right other
    have both : (∀ phase, name ∈ timing.names phase target) ↔
        name ∈ timing.names .buildTime target ∧ name ∈ timing.names .runTime target := by
      constructor
      · exact fun all => ⟨all .buildTime, all .runTime⟩
      · rintro ⟨build, run⟩ phase
        cases phase
        · exact build
        · exact run
    rw [← both, held, or_iff_right fresh]
    exact exists_congr logged
  case call =>
    intro registration phase target names requests
    exact now.1.register_of_initialization now.2 requests

end Session

end ImageConfig
