import ImageConfig.Proofs.Listing
import ImageConfig.Proofs.Run
import ImageConfig.Proofs.Steadiness

/-!
# An engine that follows a session

An engine that replays what it is sent keeps a configuration of its own. It knows no session: a
replay is one operation on one collection (`Configuration.replay`). It comes to the same as storing
the notification in a session (`Configuration.replay_eq_absorb`), where the names of a request are
looked up and reported on the way.

The engine is sent what the session stores, with one exception: a class that was submitted alone and
downgraded is stored by its name and sent as it was submitted (`sent_or_stripped`). Entry and name
contribute alike to everything but the items listed for the class, so the two configurations agree
up to those, and wholly where nothing was downgraded.
-/

namespace ImageConfig

/-! ## Replaying -/

namespace Timing

/-- Timings that request the same names for every phase and target are equal. -/
theorem ext_names {left right : Timing}
    (same : ∀ phase target, left.names phase target = right.names phase target) :
    left = right := by
  obtain ⟨buildClasses, buildPackages, runClasses, runPackages⟩ := left
  have first : buildClasses = right.buildTimeClasses := same .buildTime .classes
  have second : buildPackages = right.buildTimePackages := same .buildTime .packages
  have third : runClasses = right.runTimeClasses := same .runTime .classes
  have fourth : runPackages = right.runTimePackages := same .runTime .packages
  rw [first, second, third, fourth]

end Timing

namespace Configuration

/-- Replays a notification: an operation on the collection that it is about. Each name that is
requested for a phase is added to the set of that phase and target. A generated resource is
requested by its name, and the content stands under that name from now on. -/
def replay (config : Configuration) : Notification → Configuration
  | .addClass entry => { config with reflection := config.reflection.mergeEntry entry }
  | .addReflection bulk => { config with reflection := config.reflection.merge bulk }
  | .addProxy interfaces => { config with proxies := config.proxies.add interfaces }
  | .addResources resources => { config with resources := config.resources.merge resources }
  | .addResource name true => { config with resources := config.resources.addBundle name }
  | .addResource pattern false => { config with resources := config.resources.addPattern pattern }
  | .registerResource name content =>
    { config with
      resources := config.resources.addPattern name
      files := config.files.insert name content }
  | .initializeAt .buildTime .classes names =>
    { config with timing.buildTimeClasses := names.foldl .insert config.timing.buildTimeClasses }
  | .initializeAt .buildTime .packages names =>
    { config with timing.buildTimePackages := names.foldl .insert config.timing.buildTimePackages }
  | .initializeAt .runTime .classes names =>
    { config with timing.runTimeClasses := names.foldl .insert config.timing.runTimeClasses }
  | .initializeAt .runTime .packages names =>
    { config with timing.runTimePackages := names.foldl .insert config.timing.runTimePackages }

/-- Replays notifications, in order. -/
def replayAll (config : Configuration) (notifications : List Notification) : Configuration :=
  notifications.foldl replay config

/-- Replaying a notification comes to the same as storing it in a session. -/
theorem replay_eq_absorb (config : Configuration) (notification : Notification) :
    config.replay notification = config.absorb notification := by
  cases notification with
  | initializeAt requested kind names =>
    let replayed := config.replay (.initializeAt requested kind names)
    have timing : replayed.timing = config.timing.addAll requested kind names := by
      refine Timing.ext_names fun phase target => ?_
      rw [Timing.names_addAll]
      cases requested <;> cases kind <;> cases phase <;> cases target <;> rfl
    have others : replayed = { config with timing := replayed.timing } := by
      cases requested <;> cases kind <;> rfl
    rw [absorb_initializeAt, ← timing]
    exact others
  | addResource name isBundle => cases isBundle <;> rfl
  | _ => rfl

/-- Replaying notifications comes to the same as storing them in a session. -/
theorem replayAll_eq_absorbAll (config : Configuration) (notifications : List Notification) :
    config.replayAll notifications = config.absorbAll notifications := by
  induction notifications generalizing config with
  | nil => rfl
  | cons notification rest hyp =>
    calc
      config.replayAll (notification :: rest) = (config.replay notification).replayAll rest := rfl
      _ = (config.absorb notification).replayAll rest := by rw [replay_eq_absorb]
      _ = (config.absorb notification).absorbAll rest := hyp _

end Configuration

/-! ## What is sent -/

namespace Session

variable {σ κ : Type}

/-- In one step the same is sent and absorbed, unless an entry is downgraded: then the entry is sent
and its name is absorbed. -/
theorem sent_or_stripped (session : Session σ κ) (outside : Outside σ κ) (command : Command σ κ) :
    session.sent outside command = session.absorbed outside command ∨
    ∃ entry, (session.perform command outside).reply = .outcome .downgraded ∧
      session.sent outside command = [.addClass entry] ∧
      session.absorbed outside command = [.addClass entry.toMinimal] := by
  cases command with
  | setTypeSystem | attach | detach => exact Or.inl rfl
  | register registration =>
    cases registration with
    | addClass entry =>
      have told : (session.perform (.register (.addClass entry)) outside).reply =
          (session.verdict (.addClass entry) outside).reply :=
        session.register_reply (.addClass entry) outside
      rw [told, sent, absorbed, verdict_addClass]
      cases ((session.verifier.classify entry).run outside.types).value with
      | accepted => exact Or.inl rfl
      | downgraded => exact Or.inr ⟨entry, rfl, rfl, rfl⟩
      | rejected => exact Or.inl rfl
    | addProxy interfaces verify =>
      left
      rw [sent, absorbed, verdict_addProxy, Verdict.ofCheck]
      split <;> rfl
    | addReflection | addResources | addResource | registerResource | initializeAt
    | initializeTypes => exact Or.inl rfl

/-- What is sent contributes what is absorbed contributes, to all that takes an entry and its name
alike. -/
theorem flatMap_sent {γ : Type} (contribution : Notification → List γ)
    (alike : ∀ entry, contribution (.addClass entry) = contribution (.addClass entry.toMinimal))
    (session : Session σ κ) (outside : Outside σ κ) (commands : List (Command σ κ)) :
    (session.gather sent outside commands).flatMap contribution =
      (session.gather absorbed outside commands).flatMap contribution := by
  induction commands generalizing session outside with
  | nil => rfl
  | cons command rest hyp =>
    have step : (session.sent outside command).flatMap contribution =
        (session.absorbed outside command).flatMap contribution := by
      rcases session.sent_or_stripped outside command with same | ⟨entry, _, whole, bare⟩
      · rw [same]
      · rw [whole, bare, List.flatMap_singleton, List.flatMap_singleton, alike]
    rw [gather, gather, List.flatMap_append, List.flatMap_append, step, hyp]

/-- What is sent lists all that what is absorbed lists. -/
theorem lists_sent (session : Session σ κ) (outside : Outside σ κ)
    (commands : List (Command σ κ)) (name : String) (item : Item) :
    (∃ entry ∈ (session.gather absorbed outside commands).flatMap Notification.classes,
      entry.name = name ∧ entry.Lists item) →
    ∃ entry ∈ (session.gather sent outside commands).flatMap Notification.classes,
      entry.name = name ∧ entry.Lists item := by
  induction commands generalizing session outside with
  | nil => exact id
  | cons command rest hyp =>
    rintro ⟨entry, among, listed⟩
    rw [gather, List.flatMap_append, List.mem_append] at among
    rw [gather, List.flatMap_append]
    cases among with
    | inr later =>
      obtain ⟨found, among, lists⟩ := hyp _ _ ⟨entry, later, listed⟩
      exact ⟨found, List.mem_append_right _ among, lists⟩
    | inl first =>
      rcases session.sent_or_stripped outside command with same | ⟨submitted, _, _, bare⟩
      · rw [same]
        exact ⟨entry, List.mem_append_left _ first, listed⟩
      · rw [bare, List.flatMap_singleton] at first
        have stripped : entry = submitted.toMinimal := List.mem_singleton.mp first
        rw [stripped] at listed
        exact absurd listed.2 (submitted.not_lists_toMinimal item)

/-- Where no class that is submitted alone is downgraded, what is sent is what is absorbed. -/
theorem sent_eq_absorbed {session : Session σ κ} {outside : Outside σ κ}
    {commands : List (Command σ κ)}
    (none : ∀ performed ∈ session.steps outside commands,
      performed.reply ≠ .outcome .downgraded) :
    session.gather sent outside commands = session.gather absorbed outside commands := by
  induction commands generalizing session outside with
  | nil => rfl
  | cons command rest hyp =>
    rw [steps, List.forall_mem_cons] at none
    have step : session.sent outside command = session.absorbed outside command := by
      rcases session.sent_or_stripped outside command with same | ⟨_, downgraded, _, _⟩
      · exact same
      · exact absurd downgraded none.1
    rw [gather, gather, step, hyp none.2]

/-- An engine that is attached to a new session before anything else and reads every content to its
end keeps, by replaying what it receives, the resources, proxies, timings and generated resources of
the session, in the same order, and its classes, each with at least the items that the session
lists. Where no class that is submitted alone is downgraded, the classes are those of the session.
Whether the engine fails on a notification makes no difference. -/
theorem follower_agrees (settings : Settings) (system : TypeSystem σ) (engine : Engine κ)
    (outside : Outside σ κ) (registrations : List (Registration σ))
    (toEnd : Event.ReadToEnd ((Session.new settings system).events outside
      (.attach engine :: registrations.map .register))) :
    let opened : Session σ κ := Session.new settings system
    let commands : List (Command σ κ) := .attach engine :: registrations.map .register
    let config := (opened.ending outside commands).1.config
    let follower := Configuration.replayAll ∅ (Event.received (opened.events outside commands))
    follower.resources = config.resources ∧ follower.proxies = config.proxies ∧
    follower.timing = config.timing ∧ follower.files = config.files ∧
    follower.reflection.names = config.reflection.names ∧
    (∀ name item, config.reflection.Lists name item → follower.reflection.Lists name item) ∧
    ((∀ performed ∈ opened.steps outside commands, performed.reply ≠ .outcome .downgraded) →
      follower.reflection = config.reflection) := by
  intro opened commands config follower
  have received : Event.received (opened.events outside commands) =
      opened.gather sent outside commands := by
    let joined : Session σ κ := { opened with engine := some engine }
    have notified := joined.notifications_events rfl outside registrations
    rw [Event.received_eq_notifications toEnd]
    exact notified
  let sending := opened.gather sent outside commands
  let absorbing := opened.gather absorbed outside commands
  have alike {γ : Type} (contribution : Notification → List γ) (same : ∀ entry,
      contribution (.addClass entry) = contribution (.addClass entry.toMinimal)) :
      sending.flatMap contribution = absorbing.flatMap contribution :=
    flatMap_sent contribution same opened outside commands
  have follows : follower = Configuration.absorbAll ∅ sending := by
    rw [← Configuration.replayAll_eq_absorbAll]
    exact congrArg (Configuration.replayAll ∅) received
  have absorbs : config = Configuration.absorbAll ∅ absorbing :=
    opened.config_ending outside commands
  rw [follows, absorbs]
  refine ⟨?resources, ?proxies, ?timing, ?files, ?names, ?items, ?whole⟩
  case resources =>
    have patterns : (Configuration.absorbAll ∅ sending).resources.patterns =
        (Configuration.absorbAll ∅ absorbing).resources.patterns :=
      OrderedSet.ext_toList (by
        rw [Configuration.patterns_absorbAll, Configuration.patterns_absorbAll,
          alike Notification.patterns fun _ => rfl])
    have bundles : (Configuration.absorbAll ∅ sending).resources.bundles =
        (Configuration.absorbAll ∅ absorbing).resources.bundles :=
      OrderedSet.ext_toList (by
        rw [Configuration.bundles_absorbAll, Configuration.bundles_absorbAll,
          alike Notification.bundles fun _ => rfl])
    exact congrArg₂ Resources.mk patterns bundles
  case proxies =>
    have listed : (Configuration.absorbAll ∅ sending).proxies.toList =
        (Configuration.absorbAll ∅ absorbing).proxies.toList := by
      rw [Configuration.proxies_absorbAll, Configuration.proxies_absorbAll,
        alike Notification.proxies fun _ => rfl]
    exact congrArg Proxies.mk listed
  case timing =>
    refine Timing.ext_names fun phase target => OrderedSet.ext_toList ?_
    rw [Configuration.timing_absorbAll, Configuration.timing_absorbAll,
      alike (Notification.timed phase target) fun _ => rfl]
  case files =>
    rw [Configuration.files_absorbAll, Configuration.files_absorbAll,
      alike Notification.files fun _ => rfl]
  case names =>
    rw [Configuration.reflection_absorbAll, Configuration.reflection_absorbAll,
      Reflection.names_mergeAll, Reflection.names_mergeAll, List.map_flatMap, List.map_flatMap,
      alike (fun notification => notification.classes.map ClassEntry.name) fun _ => rfl]
  case items =>
    intro name item
    rw [Configuration.reflection_absorbAll, Configuration.reflection_absorbAll,
      Reflection.lists_mergeAll, Reflection.lists_mergeAll]
    exact Or.imp_right (opened.lists_sent outside commands name item)
  case whole =>
    intro none
    have same : sending = absorbing := sent_eq_absorbed none
    rw [same]

/-- An engine that reads every content and fails on every other notification. -/
def flakyEngine : Engine Nat where
  receive notification count :=
    { failure := if count % 2 = 0 then none else some .disconnected
      taken := match notification with
        | .registerResource _ content => content.length
        | _ => 0
      after := count + 1 }

/-- Registrations of an interface, of a type that lacks the member named, and of one that is
missing, with names requested for both phases and a content that is replaced. -/
def pluginRegistrations : List (Registration Nat) :=
  [.addClass { name := "app.Service", methods := [{ name := "run" }] },
    .addClass { name := "app.Missing" },
    .addReflection (.ofList
      [{ name := "app.Plugin", methods := [{ name := "load" }] }, { name := "app.Missing" }]),
    .addProxy ["app.Plugin"] true, .addProxy ["app.Service"] true,
    .registerResource "services" [1, 2], .registerResource "services" [3],
    .initializeAt .runTime .packages ["app"], .initializeAt .buildTime .packages ["app"]]

/-- An engine that fails now and then follows a session in which entries are rejected alone, and
rejected and downgraded in a collection. -/
theorem flaky_follower_agrees :
    let opened : Session Nat Nat := Session.new { debugVerify := true } (.known pluginTypes)
    let commands : List (Command Nat Nat) :=
      .attach flakyEngine :: pluginRegistrations.map .register
    let config := (opened.ending ⟨0, 0⟩ commands).1.config
    let follower := Configuration.replayAll ∅ (Event.received (opened.events ⟨0, 0⟩ commands))
    Event.ReadToEnd (opened.events ⟨0, 0⟩ commands) ∧
    (∀ performed ∈ opened.steps ⟨0, 0⟩ commands, performed.reply ≠ .outcome .downgraded) ∧
    follower.resources = config.resources ∧ follower.proxies = config.proxies ∧
    follower.timing = config.timing ∧ follower.files = config.files ∧
    config.files.get? "services" = some [3] ∧
    config.reflection.names = ["app.Service", "app.Plugin"] ∧
    follower.reflection = config.reflection := by
  intro opened commands config follower
  have toEnd : Event.ReadToEnd (opened.events ⟨0, 0⟩ commands) := by decide +kernel
  have none : ∀ performed ∈ opened.steps ⟨0, 0⟩ commands,
      performed.reply ≠ .outcome .downgraded := by decide +kernel
  obtain ⟨resources, proxies, timing, files, _, _, whole⟩ :=
    follower_agrees { debugVerify := true } (.known pluginTypes) flakyEngine ⟨0, 0⟩
      pluginRegistrations toEnd
  exact ⟨toEnd, none, resources, proxies, timing, files, rfl, rfl, whole none⟩

end Session

end ImageConfig
