import Mathlib.Data.List.Basic
import ImageConfig.Proofs.Interleaving
import ImageConfig.Proofs.Merging

/-!
# What is collected as a function of the history

The history of a run is what was registered and what the callers were told, in order
(`Session.calls`). It settles what has been collected: each call has the effect that the submission
and the reply say (`Registration.effect?`), and none other, whatever the type system and the engines
did meanwhile (`gather_absorbed`). For everything but the classes the closed form is explicit. Sets
and proxies hold what the calls contribute at its first occurrence (`appendAllNew_nil_left`), and
generated resources stand at their first registration with the content of their last one
(`OrderedMap.entries_insertAll_empty`).
-/

namespace ImageConfig

/-! ## First occurrences and last values -/

section Occurrences

-- Interface lists are compared by the equality of lists, which is lawful but not the decided one.
variable {α : Type} [DecidableEq α] [BEq α] [LawfulBEq α]

/-- Appending the new items of a list is appending the first occurrences of those not held. -/
theorem appendAllNew_eq_append_eraseDups (items others : List α) :
    appendAllNew items others =
      items ++ (others.filter fun item => item ∉ items).eraseDups := by
  induction others generalizing items with
  | nil => exact (List.append_nil items).symm
  | cons head rest hyp =>
    rw [appendAllNew_cons, hyp]
    by_cases held : head ∈ items
    · rw [appendNew_of_mem held, List.filter_cons_of_neg (by simpa using held)]
    · have later : (rest.filter fun item => item ∉ items ++ [head]) =
          (rest.filter fun item => item ∉ items).filter fun item => !item == head := by
        rw [List.filter_filter]
        refine List.filter_congr fun item _ => ?_
        by_cases same : item = head <;> simp [same]
      rw [appendNew_of_not_mem held, List.filter_cons_of_pos (by simpa using held),
        List.eraseDups_cons, later, List.append_assoc, List.singleton_append]

/-- Appended to nothing, a list is listed at its first occurrences. -/
theorem appendAllNew_nil_left (items : List α) : appendAllNew [] items = items.eraseDups := by
  simp [appendAllNew_eq_append_eraseDups]

end Occurrences

namespace OrderedMap

variable {κ ν : Type} [DecidableEq κ]

/-- An entry of a map is what is found under its key. -/
theorem get?_of_mem {map : OrderedMap κ ν} {entry : κ × ν} (among : entry ∈ map.entries) :
    map.get? entry.1 = some entry.2 := by
  have found := find?_key_of_mem map.nodup among
  rw [get?, found]
  rfl

/-- A map is its keys, each with what is found under it. -/
theorem entries_eq_filterMap_keys (map : OrderedMap κ ν) :
    map.entries = map.keys.filterMap fun key => (map.get? key).map (Prod.mk key) := by
  have found : map.entries.filterMap (fun entry => (map.get? entry.1).map (Prod.mk entry.1)) =
      map.entries.filterMap some := by
    refine List.filterMap_congr fun entry among => ?_
    rw [get?_of_mem among]
    rfl
  rw [keys, List.filterMap_map]
  exact (List.filterMap_some.symm.trans found.symm)

/-- A map into which pairs were inserted one by one lists every key at its first occurrence, with
the value of its last one. -/
theorem entries_insertAll_empty (pairs : List (κ × ν)) :
    (insertAll ∅ pairs).entries =
      (pairs.map Prod.fst).eraseDups.filterMap fun key =>
        pairs.findRev? fun pair => pair.1 = key := by
  have keys : (insertAll ∅ pairs : OrderedMap κ ν).keys = (pairs.map Prod.fst).eraseDups :=
    (keys_insertAll ∅ pairs).trans (appendAllNew_nil_left _)
  rw [entries_eq_filterMap_keys, keys]
  refine List.filterMap_congr fun key _ => ?_
  rw [get?_insertAll, List.getLast?_filter, List.findRev?_eq_find?_reverse]
  cases last : pairs.reverse.find? fun pair => pair.1 = key with
  | none => rfl
  | some pair =>
    have named : pair.1 = key := by simpa using List.find?_some last
    rw [← named]
    rfl

end OrderedMap

/-! ## What a call contributes -/

namespace Registration

variable {σ : Type}

/-- The initialization that a registration requests: for which phase and kind of target, and the
names. -/
def initialization? : Registration σ → Option (Phase × Target × List String)
  | initializeAt phase target names => some (phase, target, names)
  | initializeTypes phase types => some (phase, .classes, types.map FoundType.dottedName)
  | _ => none

/-- The resource patterns that a registration contributes. -/
def patterns : Registration σ → List String
  | addResources resources => resources.patterns.toList
  | addResource pattern false => [pattern]
  | registerResource name _ => [name]
  | _ => []

/-- The bundle names that a registration contributes. -/
def bundles : Registration σ → List String
  | addResources resources => resources.bundles.toList
  | addResource name true => [name]
  | _ => []

/-- The proxies that a registration contributes, given what its caller is told. -/
def proxies : Registration σ → Reply → List Proxy
  | addProxy interfaces _, .registered true => [interfaces]
  | _, _ => []

/-- The names that a registration contributes for a phase and kind of target. -/
def timed (phase : Phase) (target : Target) (registration : Registration σ) : List String :=
  match registration.initialization? with
  | some (requested, kind, names) => if requested = phase ∧ kind = target then names else []
  | none => []

/-- Whether a registration is about classes to be reached by reflection. -/
def ofClasses : Registration σ → Bool
  | addClass _ | addReflection _ => true
  | _ => false

/-- What a registration adds to the configuration, given what its caller is told. -/
def effect? : Registration σ → Reply → Option Notification
  | addClass entry, .outcome outcome => (outcome.kept entry).map .addClass
  | addReflection bulk, .survivors survivors => some (.addReflection (survivors.kept bulk))
  | addProxy interfaces _, .registered true => some (.addProxy interfaces)
  | addResources resources, _ => some (.addResources resources)
  | addResource pattern isBundle, _ => some (.addResource pattern isBundle)
  | registerResource name content, _ => some (.registerResource name content)
  | initializeAt phase target names, _ => some (.initializeAt phase target names)
  | initializeTypes phase types, _ =>
    some (.initializeAt phase .classes (types.map FoundType.dottedName))
  | _, _ => none

section Contributions

variable (registration : Registration σ) (reply : Reply)

/-- The effect of a call contributes the patterns of the registration. -/
theorem patterns_effect? :
    (registration.effect? reply).elim [] Notification.patterns = registration.patterns := by
  rcases registration with _ | _ | _ | _ | ⟨_, _ | _⟩ | _ | _ | _ <;>
    rcases reply with (_ | _ | _) | _ | (_ | _) | _ <;> rfl

/-- The effect of a call contributes the bundles of the registration. -/
theorem bundles_effect? :
    (registration.effect? reply).elim [] Notification.bundles = registration.bundles := by
  rcases registration with _ | _ | _ | _ | ⟨_, _ | _⟩ | _ | _ | _ <;>
    rcases reply with (_ | _ | _) | _ | (_ | _) | _ <;> rfl

/-- The effect of a call contributes the proxy of the registration if the caller is told so. -/
theorem proxies_effect? :
    (registration.effect? reply).elim [] Notification.proxies = registration.proxies reply := by
  rcases registration with _ | _ | _ | _ | _ | _ | _ | _ <;>
    rcases reply with (_ | _ | _) | _ | (_ | _) | _ <;> rfl

/-- The effect of a call contributes the names of the registration. -/
theorem timed_effect? (phase : Phase) (target : Target) :
    (registration.effect? reply).elim [] (Notification.timed phase target) =
      registration.timed phase target := by
  rcases registration with _ | _ | _ | _ | _ | _ | _ | _ <;>
    rcases reply with (_ | _ | _) | _ | (_ | _) | _ <;> rfl

/-- The effect of a call contributes the generated resource of the registration. -/
theorem files_effect? :
    (registration.effect? reply).elim [] Notification.files = registration.files := by
  rcases registration with _ | _ | _ | _ | _ | _ | _ | _ <;>
    rcases reply with (_ | _ | _) | _ | (_ | _) | _ <;> rfl

end Contributions

/-- Only the registration of a generated resource stores it. -/
theorem eq_registerResource_of_mem_files {registration : Registration σ}
    {file : String × List UInt8} (stored : file ∈ registration.files) :
    registration = .registerResource file.1 file.2 := by
  cases registration with
  | registerResource name content => rw [List.mem_singleton.mp stored]
  | _ => exact absurd stored List.not_mem_nil

end Registration

namespace Session

variable {σ κ : Type}

/-- The configuration absorbs what the submission and the reply say. -/
theorem absorbed?_verdict (session : Session σ κ) (registration : Registration σ)
    (outside : Outside σ κ) :
    (session.verdict registration outside).absorbed? =
      registration.effect? (session.verdict registration outside).reply := by
  cases registration with
  | addClass entry =>
    rw [verdict_addClass]
    cases ((session.verifier.classify entry).run outside.types).value <;> rfl
  | addProxy interfaces verify =>
    rw [verdict_addProxy, Verdict.ofCheck]
    split <;> rfl
  | initializeTypes phase types =>
    have names := Verifier.value_dottedNames types outside.types
    exact congrArg (fun names => some (Notification.initializeAt phase .classes names)) names
  | addReflection | addResources | addResource | registerResource | initializeAt => rfl

/-- The call that a command makes: what is registered and what the caller is told. -/
def called (session : Session σ κ) (outside : Outside σ κ) :
    Command σ κ → List (Registration σ × Reply)
  | .register registration => [(registration, (session.register registration outside).reply)]
  | _ => []

/-- The history of a run: its calls, in order. -/
def calls (session : Session σ κ) (outside : Outside σ κ) (commands : List (Command σ κ)) :
    List (Registration σ × Reply) :=
  session.gather called outside commands

/-- What a run adds to the configuration is the effect of its calls, in order. -/
theorem gather_absorbed (session : Session σ κ) (outside : Outside σ κ)
    (commands : List (Command σ κ)) :
    session.gather absorbed outside commands =
      (session.calls outside commands).filterMap fun call => call.1.effect? call.2 := by
  induction commands generalizing session outside with
  | nil => rfl
  | cons command rest hyp =>
    have step : session.absorbed outside command =
        (session.called outside command).filterMap fun call => call.1.effect? call.2 := by
      cases command with
      | register registration =>
        rw [absorbed, absorbed?_verdict, called, register_reply,
          List.filterMap_eq_flatMap_toList, List.flatMap_singleton]
      | setTypeSystem | attach | detach => rfl
    have later := hyp (session.perform command outside).session
      (session.perform command outside).outside
    rw [gather, calls, gather, List.filterMap_append, step, later]
    rfl

/-- A contribution of what a run adds is the contribution of its calls, if it is for each effect. -/
theorem flatMap_gather_absorbed {γ : Type} {contribution : Notification → List γ}
    {own : Registration σ → Reply → List γ}
    (each : ∀ registration reply,
      (registration.effect? reply).elim [] contribution = own registration reply)
    (session : Session σ κ) (outside : Outside σ κ) (commands : List (Command σ κ)) :
    (session.gather absorbed outside commands).flatMap contribution =
      (session.calls outside commands).flatMap fun call => own call.1 call.2 := by
  rw [gather_absorbed, List.filterMap_eq_flatMap_toList, List.flatMap_assoc]
  refine List.flatMap_congr fun call _ => ?_
  rw [← each call.1 call.2]
  cases call.1.effect? call.2 with
  | none => rfl
  | some effect => exact List.flatMap_singleton _ _

/-- Registering classes adds to the classes and to nothing else. -/
theorem register_ofClasses (session : Session σ κ) (outside : Outside σ κ)
    {registration : Registration σ} (classes : registration.ofClasses = true) :
    let config := (session.register registration outside).session.config
    config = { session.config with reflection := config.reflection } := by
  intro config
  have stored : config = session.config.absorbAll
      (registration.effect? (session.verdict registration outside).reply).toList := by
    rw [← absorbed?_verdict]
    exact congrArg Session.config (session.register_session registration outside)
  rw [stored]
  generalize (session.verdict registration outside).reply = reply
  cases registration with
  | addClass entry => rcases reply with (_ | _ | _) | _ | _ | _ <;> rfl
  | addReflection bulk => cases reply <;> rfl
  | _ => cases classes

/-- What has been collected at the end of a run from a new session, apart from the classes, is a
closed form of the history of the run. -/
theorem config_ending_eq_of_calls (settings : Settings) (system : TypeSystem σ)
    (outside : Outside σ κ) (commands : List (Command σ κ)) :
    let opened : Session σ κ := Session.new settings system
    let calls := opened.calls outside commands
    let stored := calls.flatMap fun call => call.1.files
    let now := opened.ending outside commands
    let config := now.1.config
    config.resources.patterns.toList = (calls.flatMap fun call => call.1.patterns).eraseDups ∧
    config.resources.bundles.toList = (calls.flatMap fun call => call.1.bundles).eraseDups ∧
    config.proxies.toList = (calls.flatMap fun call => call.1.proxies call.2).eraseDups ∧
    (∀ phase target, (config.timing.names phase target).toList =
      (calls.flatMap fun call => call.1.timed phase target).eraseDups) ∧
    config.files.entries = (stored.map Prod.fst).eraseDups.filterMap
      (fun name => stored.findRev? fun file => file.1 = name) ∧
    (∀ name ∈ config.files.keys, name ∈ config.resources.patterns) ∧
    (∀ registration : Registration σ, registration.ofClasses = true →
      let later := (now.1.register registration now.2).session.config
      later = { config with reflection := later.reflection }) := by
  intro opened calls stored now config
  have absorbs : config = Configuration.absorbAll ∅ (opened.gather absorbed outside commands) :=
    opened.config_ending outside commands
  have patterns : config.resources.patterns.toList =
      (calls.flatMap fun call => call.1.patterns).eraseDups := by
    rw [absorbs, Configuration.patterns_absorbAll,
      flatMap_gather_absorbed Registration.patterns_effect?]
    exact appendAllNew_nil_left _
  have files : config.files = OrderedMap.insertAll ∅ stored := by
    rw [absorbs, Configuration.files_absorbAll,
      flatMap_gather_absorbed Registration.files_effect?]
    rfl
  refine ⟨patterns, ?bundles, ?proxies, ?timing, ?files, ?names, ?classes⟩
  case bundles =>
    rw [absorbs, Configuration.bundles_absorbAll,
      flatMap_gather_absorbed Registration.bundles_effect?]
    exact appendAllNew_nil_left _
  case proxies =>
    rw [absorbs, Configuration.proxies_absorbAll,
      flatMap_gather_absorbed Registration.proxies_effect?]
    exact appendAllNew_nil_left _
  case timing =>
    intro phase target
    rw [absorbs, Configuration.timing_absorbAll, flatMap_gather_absorbed
      fun registration reply => registration.timed_effect? reply phase target]
    cases phase <;> cases target <;> exact appendAllNew_nil_left _
  case files =>
    rw [files]
    exact OrderedMap.entries_insertAll_empty stored
  case names =>
    intro name named
    rw [files, OrderedMap.keys_insertAll, mem_appendAllNew] at named
    obtain ⟨file, among, rfl⟩ := List.mem_map.mp (named.resolve_left List.not_mem_nil)
    obtain ⟨call, made, own⟩ := List.mem_flatMap.mp among
    rw [OrderedSet.mem_def, patterns, List.mem_eraseDups]
    refine List.mem_flatMap.mpr ⟨call, made, ?_⟩
    rw [Registration.eq_registerResource_of_mem_files own]
    exact List.mem_singleton_self file.1
  case classes =>
    intro registration classes
    exact now.1.register_ofClasses now.2 classes

end Session

end ImageConfig
