import Mathlib.Data.List.Basic
import ImageConfig.Proofs.History

/-!
# Registering again

What a configuration has absorbed it holds (`Configuration.Holds`), whatever it absorbs besides, and
to absorb what is held changes nothing (`Configuration.absorbAll_of_holds`). Only the content of a
generated resource can be lost, to another content under its name. Against a steady type system the
verdict on a registration never changes, so to register something once more, at any later time,
leaves the session as it is (`Session.register_again`).
-/

namespace ImageConfig

namespace OrderedMap

variable {κ ν : Type} [DecidableEq κ]

/-- Putting in place what is found there changes nothing. -/
theorem replaceOrAppend_of_find? {key : κ} {value : ν} {entries : List (κ × ν)}
    (found : entries.find? (fun entry => entry.1 = key) = some (key, value)) :
    replaceOrAppend key value entries = entries := by
  induction entries with
  | nil => cases found
  | cons entry rest hyp =>
    by_cases here : entry.1 = key
    · have same : entry = (key, value) := by simpa [here] using found
      rw [replaceOrAppend, if_pos here, same]
    · rw [replaceOrAppend, if_neg here, hyp (by simpa [here] using found)]

/-- Inserting pairs that a map holds changes nothing. -/
theorem insertAll_of_held {map : OrderedMap κ ν} {pairs : List (κ × ν)}
    (held : ∀ pair ∈ pairs, map.get? pair.1 = some pair.2) : map.insertAll pairs = map := by
  induction pairs with
  | nil => rfl
  | cons pair rest hyp =>
    rw [List.forall_mem_cons] at held
    obtain ⟨entry, found, value⟩ := Option.map_eq_some_iff.mp held.1
    have key : entry.1 = pair.1 := by simpa using List.find?_some found
    obtain rfl : entry = pair := Prod.ext key value
    have unchanged : map.insert entry.1 entry.2 = map :=
      ext_entries (replaceOrAppend_of_find? found)
    have later := hyp held.2
    rw [← unchanged] at later
    exact later.trans unchanged

/-- A pair that was inserted is held, if no other value was inserted under its key. -/
theorem get?_insertAll_of_sole (map : OrderedMap κ ν) {pairs : List (κ × ν)} {pair : κ × ν}
    (among : pair ∈ pairs) (sole : ∀ other ∈ pairs, other.1 = pair.1 → other = pair) :
    (map.insertAll pairs).get? pair.1 = some pair.2 := by
  rw [get?_insertAll, List.getLast?_filter]
  cases last : pairs.reverse.find? fun other => other.1 = pair.1 with
  | none =>
    have other := List.find?_eq_none.mp last pair (List.mem_reverse.mpr among)
    exact absurd (decide_eq_true rfl) other
  | some other =>
    have named : other.1 = pair.1 := by simpa using List.find?_some last
    rw [sole other (List.mem_reverse.mp (List.mem_of_find?_eq_some last)) named]
    rfl

end OrderedMap

/-! ## What a configuration holds -/

namespace Configuration

/-- Configurations that agree in each of their collections are equal. -/
theorem ext_collections {left right : Configuration}
    (reflection : left.reflection = right.reflection)
    (patterns : left.resources.patterns.toList = right.resources.patterns.toList)
    (bundles : left.resources.bundles.toList = right.resources.bundles.toList)
    (proxies : left.proxies.toList = right.proxies.toList)
    (timing : ∀ phase target,
      (left.timing.names phase target).toList = (right.timing.names phase target).toList)
    (files : left.files = right.files) : left = right := by
  have resources : left.resources = right.resources :=
    congrArg₂ Resources.mk (OrderedSet.ext_toList patterns) (OrderedSet.ext_toList bundles)
  have sameProxies : left.proxies = right.proxies := congrArg Proxies.mk proxies
  have sameTiming : left.timing = right.timing :=
    Timing.ext_names fun phase target => OrderedSet.ext_toList (timing phase target)
  cases left
  cases right
  simp_all

/-- The configuration holds all that a notification contributes. -/
structure Holds (config : Configuration) (notification : Notification) : Prop where
  /-- Each entry adds nothing to the one held under its name. -/
  classes : ∀ entry ∈ notification.classes, ∃ own,
    config.reflection.get? entry.name = some own ∧ own.merge entry = own
  /-- Each pattern is requested. -/
  patterns : ∀ pattern ∈ notification.patterns, pattern ∈ config.resources.patterns
  /-- Each bundle is requested. -/
  bundles : ∀ bundle ∈ notification.bundles, bundle ∈ config.resources.bundles
  /-- Each proxy is listed. -/
  proxies : ∀ proxy ∈ notification.proxies, proxy ∈ config.proxies.toList
  /-- Each name is requested for its phase and kind of target. -/
  timing : ∀ phase target, ∀ name ∈ notification.timed phase target,
    name ∈ config.timing.names phase target
  /-- Each generated resource has its content. -/
  files : ∀ file ∈ notification.files, config.files.get? file.1 = some file.2

/-- What has been absorbed is held, unless another content came under the name of a generated
resource. -/
theorem holds_absorbAll (config : Configuration) {notifications : List Notification}
    {notification : Notification} (among : notification ∈ notifications)
    (sole : ∀ file ∈ notification.files, ∀ other ∈ notifications.flatMap Notification.files,
      other.1 = file.1 → other = file) :
    (config.absorbAll notifications).Holds notification := by
  have contributed {γ : Type} {contribution : Notification → List γ} {item : γ}
      (own : item ∈ contribution notification) : item ∈ notifications.flatMap contribution :=
    List.mem_flatMap.mpr ⟨notification, among, own⟩
  constructor
  case classes =>
    intro entry own
    rw [reflection_absorbAll]
    exact config.reflection.get?_mergeAll_of_mem (contributed own)
  case patterns =>
    intro pattern own
    rw [OrderedSet.mem_def, patterns_absorbAll, mem_appendAllNew]
    exact Or.inr (contributed own)
  case bundles =>
    intro bundle own
    rw [OrderedSet.mem_def, bundles_absorbAll, mem_appendAllNew]
    exact Or.inr (contributed own)
  case proxies =>
    intro proxy own
    rw [proxies_absorbAll, mem_appendAllNew]
    exact Or.inr (contributed own)
  case timing =>
    intro phase target name own
    rw [OrderedSet.mem_def, timing_absorbAll, mem_appendAllNew]
    exact Or.inr (contributed own)
  case files =>
    intro file own
    rw [files_absorbAll]
    exact config.files.get?_insertAll_of_sole (contributed own) (sole file own)

/-- Absorbing one notification that is held changes nothing. -/
theorem absorb_of_holds {config : Configuration} {notification : Notification}
    (held : config.Holds notification) : config.absorb notification = config := by
  change config.absorbAll [notification] = config
  apply ext_collections
  case reflection =>
    rw [reflection_absorbAll, List.flatMap_singleton]
    exact Reflection.mergeAll_of_held held.classes
  case patterns =>
    rw [patterns_absorbAll, List.flatMap_singleton]
    exact appendAllNew_of_forall_mem held.patterns
  case bundles =>
    rw [bundles_absorbAll, List.flatMap_singleton]
    exact appendAllNew_of_forall_mem held.bundles
  case proxies =>
    rw [proxies_absorbAll, List.flatMap_singleton]
    exact appendAllNew_of_forall_mem held.proxies
  case timing =>
    intro phase target
    rw [timing_absorbAll, List.flatMap_singleton]
    exact appendAllNew_of_forall_mem (held.timing phase target)
  case files =>
    rw [files_absorbAll, List.flatMap_singleton]
    exact OrderedMap.insertAll_of_held held.files

/-- Absorbing what is held changes nothing. -/
theorem absorbAll_of_holds {config : Configuration} {notifications : List Notification}
    (held : ∀ notification ∈ notifications, config.Holds notification) :
    config.absorbAll notifications = config := by
  induction notifications with
  | nil => rfl
  | cons notification rest hyp =>
    rw [List.forall_mem_cons] at held
    have later := hyp held.2
    rw [← absorb_of_holds held.1] at later
    exact later.trans (absorb_of_holds held.1)

end Configuration

/-! ## Registering once more -/

/-- Whether a command leaves the type system in its place. -/
def Command.keepsTypeSystem {σ κ : Type} : Command σ κ → Bool
  | setTypeSystem _ => false
  | _ => true

namespace Session

variable {σ κ : Type}

/-- A session comes to the same verdicts as long as its type system stays in place. -/
theorem decides_ending {session : Session σ κ} {judgement : Registration σ → Verdict}
    (decides : session.Decides judgement) (outside : Outside σ κ) {commands : List (Command σ κ)}
    (fixed : ∀ command ∈ commands, command.keepsTypeSystem = true) :
    (session.ending outside commands).1.Decides judgement := by
  induction commands generalizing session outside with
  | nil => exact decides
  | cons command rest hyp =>
    rw [List.forall_mem_cons] at fixed
    have still : (session.perform command outside).session.Decides judgement := by
      cases command with
      | register registration => exact decides_register decides registration outside
      | setTypeSystem system => exact absurd fixed.1 Bool.false_ne_true
      | attach engine => exact decides
      | detach => exact decides
    rw [ending_cons]
    exact hyp still (session.perform command outside).outside fixed.2

/-- The calls of a run are among its commands. -/
theorem mem_commands_of_mem_calls {session : Session σ κ} {outside : Outside σ κ}
    {commands : List (Command σ κ)} {call : Registration σ × Reply}
    (made : call ∈ session.calls outside commands) : .register call.1 ∈ commands := by
  induction commands generalizing session outside with
  | nil => exact absurd made List.not_mem_nil
  | cons command rest hyp =>
    rw [calls, gather, List.mem_append] at made
    cases made with
    | inr later => exact List.mem_cons_of_mem command (hyp later)
    | inl first =>
      cases command with
      | register registration =>
        rw [List.mem_singleton.mp first]
        exact List.mem_cons_self
      | _ => exact absurd first List.not_mem_nil

/-- What a registration adds is held at any later time, whatever is registered in between. For a
generated resource no other content must have been registered under its name. -/
theorem holds_ending_register (session : Session σ κ) (outside : Outside σ κ)
    {registration : Registration σ} {between : List (Command σ κ)}
    (sole : ∀ name content other, registration = .registerResource name content →
      .register (.registerResource name other) ∈ between → other = content) :
    let first := session.register registration outside
    ∀ notification ∈ (session.verdict registration outside).absorbed?.toList,
      (first.session.ending first.outside between).1.config.Holds notification := by
  intro first notification among
  let absorbing := (session.verdict registration outside).absorbed?.toList
  let since := first.session.gather absorbed first.outside between
  have stored : (first.session.ending first.outside between).1.config =
      session.config.absorbAll (absorbing ++ since) := by
    have early : first.session.config = session.config.absorbAll absorbing :=
      congrArg Session.config (session.register_session registration outside)
    rw [config_ending, early, Configuration.absorbAll, Configuration.absorbAll,
      Configuration.absorbAll, List.foldl_append]
  have ownFiles : absorbing.flatMap Notification.files = registration.files :=
    session.files_verdict registration outside
  rw [stored]
  refine session.config.holds_absorbAll (List.mem_append_left since among) ?_
  intro file own other inserted named
  have owner : registration = .registerResource file.1 file.2 := by
    refine Registration.eq_registerResource_of_mem_files ?_
    rw [← ownFiles]
    exact List.mem_flatMap.mpr ⟨notification, among, own⟩
  rw [List.flatMap_append, ownFiles, flatMap_gather_absorbed Registration.files_effect?,
    List.mem_append] at inserted
  cases inserted with
  | inl itself =>
    have same := Registration.eq_registerResource_of_mem_files itself
    rw [owner] at same
    injection same with name content
    exact Prod.ext name.symm content.symm
  | inr later =>
    obtain ⟨call, made, stores⟩ := List.mem_flatMap.mp later
    have command := mem_commands_of_mem_calls made
    rw [Registration.eq_registerResource_of_mem_files stores, named] at command
    exact Prod.ext named (sole file.1 file.2 other.2 owner command)

/-- Against a steady type system that stays in place, to register something and to register it
again at any later time leaves the whole session as it was before the second time, and the caller is
told the same. For a generated resource no other content must have been registered under its name in
between. -/
theorem register_again {session : Session σ κ} (steady : session.system.Steady)
    (outside : Outside σ κ) {registration : Registration σ} {between : List (Command σ κ)}
    (fixed : ∀ command ∈ between, command.keepsTypeSystem = true)
    (sole : ∀ name content other, registration = .registerResource name content →
      .register (.registerResource name other) ∈ between → other = content) :
    let first := session.register registration outside
    let later := first.session.ending first.outside between
    let second := later.1.register registration later.2
    second.session = later.1 ∧ second.reply = first.reply := by
  intro first later second
  have decides : session.Decides (session.verdict · outside) := decides_of_steady steady outside
  have again : later.1.verdict registration later.2 = session.verdict registration outside :=
    decides_ending (decides_register decides registration outside) first.outside fixed
      registration later.2
  refine ⟨?unchanged, ?told⟩
  case unchanged =>
    have held := session.holds_ending_register outside sole
    have unchanged : later.1.config.absorbAll
        (session.verdict registration outside).absorbed?.toList = later.1.config :=
      Configuration.absorbAll_of_holds held
    have twice := later.1.register_session registration later.2
    rw [again, unchanged] at twice
    exact twice
  case told =>
    have told : second.reply = (session.verdict registration outside).reply := by
      rw [← again]
      exact later.1.register_reply registration later.2
    exact told.trans (session.register_reply registration outside).symm

/-- A plugin and a service with members named twice, and a type that is missing. -/
def pluginBulk : Reflection :=
  .ofList
    [{ name := "app.Plugin", methods := [{ name := "load" }] },
      { name := "app.Service", methods := [{ name := "run" }, { name := "run" }] },
      { name := "app.Missing" }]

/-- Commands that add to what the bulk contributes and store contents of generated resources, one of
them twice. -/
def pluginFollowUp : List (Command Nat Nat) :=
  [.detach, .register (.addClass { name := "app.Service", methods := [{ name := "stop" }] }),
    .register (.registerResource "services" [1, 2]), .register (.addProxy ["app.Service"] true),
    .register (.registerResource "manifest" [3]), .attach flakyEngine]

/-- A bulk of which one entry is downgraded and one rejected, and a generated resource, are
registered again after other registrations that changed what is collected. -/
theorem plugin_register_again :
    let bulk := pluginSession.register (.addReflection pluginBulk) ⟨0, 0⟩
    let bulkLater := bulk.session.ending bulk.outside pluginFollowUp
    let bulkAgain := bulkLater.1.register (.addReflection pluginBulk) bulkLater.2
    let file := pluginSession.register (.registerResource "services" [1, 2]) ⟨0, 0⟩
    let fileLater := file.session.ending file.outside pluginFollowUp
    let fileAgain := fileLater.1.register (.registerResource "services" [1, 2]) fileLater.2
    pluginSession.system.Steady ∧
    (∀ command ∈ pluginFollowUp, command.keepsTypeSystem = true) ∧
    (∀ other, .register (.registerResource "services" other) ∈ pluginFollowUp →
      other = [1, 2]) ∧
    bulk.reply ≠ .survivors .unchanged ∧ bulkLater.1.config ≠ bulk.session.config ∧
    bulkAgain.session = bulkLater.1 ∧ bulkAgain.reply = bulk.reply ∧
    fileLater.1.config ≠ file.session.config ∧
    fileAgain.session = fileLater.1 ∧ fileAgain.reply = file.reply := by
  intro bulk bulkLater bulkAgain file fileLater fileAgain
  have steady : pluginSession.system.Steady := TypeSystem.steady_known pluginTypes
  have fixed : ∀ command ∈ pluginFollowUp, command.keepsTypeSystem = true := by
    simp [pluginFollowUp, Command.keepsTypeSystem]
  have sole : ∀ other, .register (.registerResource "services" other) ∈ pluginFollowUp →
      other = [1, 2] := by
    simp [pluginFollowUp]
  have changed : bulk.reply ≠ .survivors .unchanged ∧ bulkLater.1.config ≠ bulk.session.config ∧
      fileLater.1.config ≠ file.session.config := by decide +kernel
  have bulkSole : ∀ name content other,
      (.addReflection pluginBulk : Registration Nat) = .registerResource name content →
      .register (.registerResource name other) ∈ pluginFollowUp → other = content :=
    fun _ _ _ same _ => nomatch same
  have fileSole : ∀ name content other,
      (.registerResource "services" [1, 2] : Registration Nat) = .registerResource name content →
      .register (.registerResource name other) ∈ pluginFollowUp → other = content := by
    intro name content other same among
    injection same with sameName sameContent
    rw [← sameName] at among
    exact (sole other among).trans sameContent
  obtain ⟨bulkSession, bulkReply⟩ := register_again steady ⟨0, 0⟩ fixed bulkSole
  obtain ⟨fileSession, fileReply⟩ := register_again steady ⟨0, 0⟩ fixed fileSole
  exact ⟨steady, fixed, sole, changed.1, changed.2.1, bulkSession, bulkReply, changed.2.2,
    fileSession, fileReply⟩

end Session

end ImageConfig
