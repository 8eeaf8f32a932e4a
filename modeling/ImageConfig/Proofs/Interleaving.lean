import ImageConfig.Handles
import ImageConfig.Proofs.Following

/-!
# Clients that share a session

Clients that hold handles of one session have their registrations performed one at a time, in an
order that nobody controls beyond the order of each client's own work (`Interleaves`). Against a
steady type system that order makes no difference to what the clients are told, to what the engine
is notified of, or to what is collected, except for the order of what is collected and for the
content of a generated resource that several clients register. The reason is that a verdict depends
on the registration alone (`Session.Decides`), so that two orders differ by a permutation of what
is absorbed and sent (`config_serve`, `notifications_serve`).
-/

namespace ImageConfig

/-! ## Schedules -/

section Schedules

variable {ι α : Type} [DecidableEq ι]

/-- The schedule gives every client the turns of its own work, in the order of that work. -/
def Interleaves (work : ι → List α) (schedule : List (ι × α)) : Prop :=
  ∀ client, schedule.filter (fun turn => turn.1 = client) = (work client).map (client, ·)

variable {work : ι → List α} {first second schedule : List (ι × α)}

/-- Schedules of the same work have the same turns. -/
theorem perm_of_interleaves (left : Interleaves work first) (right : Interleaves work second) :
    first.Perm second := by
  classical
  rw [List.perm_iff_count]
  intro turn
  have own (schedule : List (ι × α)) : schedule.count turn =
      (schedule.filter fun other => other.1 = turn.1).count turn :=
    (List.count_filter (by simp)).symm
  rw [own first, own second, left, right]

/-- A turn belongs to the work of its client. -/
theorem mem_work_of_interleaves (interleaved : Interleaves work schedule) {turn : ι × α}
    (scheduled : turn ∈ schedule) : turn.2 ∈ work turn.1 := by
  have own : turn ∈ schedule.filter fun other => other.1 = turn.1 :=
    List.mem_filter.mpr ⟨scheduled, decide_eq_true rfl⟩
  rw [interleaved, List.mem_map] at own
  obtain ⟨done, among, same⟩ := own
  rw [← same]
  exact among

end Schedules

/-! ## Orders of what is absorbed -/

/-- Appending the same items in another order lists the same items in another order. -/
theorem perm_appendAllNew {α : Type} [DecidableEq α] {items first second : List α}
    (distinct : items.Nodup) (same : first.Perm second) :
    (appendAllNew items first).Perm (appendAllNew items second) := by
  rw [List.perm_ext_iff_of_nodup (nodup_appendAllNew distinct first)
    (nodup_appendAllNew distinct second)]
  intro item
  rw [mem_appendAllNew, mem_appendAllNew, same.mem_iff]

namespace Configuration

/-- Two configurations hold the same up to order and to the contents of generated resources. -/
structure SameUpToOrder (left right : Configuration) : Prop where
  /-- The same classes. -/
  classes : left.reflection.names.Perm right.reflection.names
  /-- The same methods, fields and flags of each class. -/
  items : ∀ name item, left.reflection.Lists name item ↔ right.reflection.Lists name item
  /-- The same resource patterns. -/
  patterns : left.resources.patterns.toList.Perm right.resources.patterns.toList
  /-- The same resource bundles. -/
  bundles : left.resources.bundles.toList.Perm right.resources.bundles.toList
  /-- The same proxies, each as often. -/
  proxies : left.proxies.toList.Perm right.proxies.toList
  /-- The same names for each phase and kind of target. -/
  timing : ∀ phase target,
    (left.timing.names phase target).toList.Perm (right.timing.names phase target).toList
  /-- The same names of generated resources. -/
  files : left.files.keys.Perm right.files.keys

/-- A configuration that absorbs the same in another order holds the same up to order. -/
theorem sameUpToOrder_absorbAll {config : Configuration} (distinct : config.proxies.toList.Nodup)
    {first second : List Notification} (same : first.Perm second) :
    (config.absorbAll first).SameUpToOrder (config.absorbAll second) where
  classes := by
    rw [reflection_absorbAll, reflection_absorbAll, Reflection.names_mergeAll,
      Reflection.names_mergeAll]
    exact perm_appendAllNew config.reflection.nodup ((same.flatMap_right _).map _)
  items name item := by
    have classes := same.flatMap_right Notification.classes
    rw [reflection_absorbAll, reflection_absorbAll, Reflection.lists_mergeAll,
      Reflection.lists_mergeAll]
    simp only [classes.mem_iff]
  patterns := by
    rw [patterns_absorbAll, patterns_absorbAll]
    exact perm_appendAllNew config.resources.patterns.nodup (same.flatMap_right _)
  bundles := by
    rw [bundles_absorbAll, bundles_absorbAll]
    exact perm_appendAllNew config.resources.bundles.nodup (same.flatMap_right _)
  proxies := by
    rw [proxies_absorbAll, proxies_absorbAll]
    exact perm_appendAllNew distinct (same.flatMap_right _)
  timing phase target := by
    rw [timing_absorbAll, timing_absorbAll]
    exact perm_appendAllNew (config.timing.names phase target).nodup (same.flatMap_right _)
  files := by
    rw [files_absorbAll, files_absorbAll, OrderedMap.keys_insertAll, OrderedMap.keys_insertAll]
    exact perm_appendAllNew config.files.nodup ((same.flatMap_right _).map _)

end Configuration

/-! ## Verdicts that are known beforehand -/

/-- The generated resources that a registration stores. -/
def Registration.files {σ : Type} : Registration σ → List (String × List UInt8)
  | registerResource name content => [(name, content)]
  | _ => []

namespace Session

variable {σ κ : Type}

/-- The session comes to the given verdicts, whatever the state of the other sides. -/
def Decides (session : Session σ κ) (judgement : Registration σ → Verdict) : Prop :=
  ∀ registration outside, session.verdict registration outside = judgement registration

/-- A session comes to the verdicts it would come to now, if its type system is steady. -/
theorem decides_of_steady {session : Session σ κ} (steady : session.system.Steady)
    (outside : Outside σ κ) : session.Decides (session.verdict · outside) := by
  intro registration other
  exact Verifier.judge_steady steady registration other.types outside.types

/-- Registrations do not change how a session comes to its verdicts. -/
theorem decides_register {session : Session σ κ} {judgement : Registration σ → Verdict}
    (decides : session.Decides judgement) (registration : Registration σ)
    (outside : Outside σ κ) :
    (session.register registration outside).session.Decides judgement := by
  intro later other
  rw [register_session]
  exact decides later other

/-- A generated resource that is registered is stored, and no other registration stores any. -/
theorem files_verdict (session : Session σ κ) (registration : Registration σ)
    (outside : Outside σ κ) :
    (session.verdict registration outside).absorbed?.toList.flatMap Notification.files =
      registration.files := by
  cases registration with
  | addClass entry =>
    rw [verdict_addClass]
    cases ((session.verifier.classify entry).run outside.types).value <;> rfl
  | addProxy interfaces verify =>
    rw [verdict_addProxy, Verdict.ofCheck]
    split <;> rfl
  | addReflection | addResources | addResource | registerResource | initializeAt
  | initializeTypes => rfl

/-- No session that a run ends in holds a proxy twice. -/
theorem nodup_proxies_of_reachable {session : Session σ κ} (reachable : session.Reachable) :
    session.config.proxies.toList.Nodup := by
  obtain ⟨settings, system, outside, commands, rfl⟩ := reachable
  rw [config_ending, Configuration.proxies_absorbAll]
  exact nodup_appendAllNew List.nodup_nil _

end Session

/-! ## Clients served in turn -/

/-- A session that has served clients. -/
structure Served (ι σ κ : Type) where
  /-- The handles that the clients hold. -/
  handles : Handles (Session σ κ)
  /-- The other sides afterwards. -/
  outside : Outside σ κ
  /-- What was done for each client in each turn. -/
  performed : List (ι × Performed σ κ)

namespace Served

variable {ι σ κ : Type}

/-- What has been collected. -/
def config (served : Served ι σ κ) : Configuration := served.handles.value.config

/-- What a client was told, in order. -/
def replies [DecidableEq ι] (served : Served ι σ κ) (client : ι) : List Reply :=
  (served.performed.filter fun turn => turn.1 = client).map fun turn => turn.2.reply

/-- What the engine was notified of, in order. -/
def notifications (served : Served ι σ κ) : List Notification :=
  Event.notifications (served.performed.flatMap fun turn => turn.2.events)

end Served

variable {ι σ κ : Type}

/-- Performs the registrations of clients in turn, each in one use of a handle. -/
def Handles.serve (handles : Handles (Session σ κ)) (outside : Outside σ κ) :
    List (ι × Registration σ) → Served ι σ κ
  | [] => ⟨handles, outside, []⟩
  | (client, registration) :: rest =>
    let used := handles.use fun session =>
      let performed := session.register registration outside
      (performed.session, performed)
    let later := used.1.serve used.2.outside rest
    { later with performed := (client, used.2) :: later.performed }

section Serving

variable {judgement : Registration σ → Verdict}

/-- Each client is told the verdicts on its registrations. -/
theorem map_reply_serve (handles : Handles (Session σ κ))
    (decides : handles.value.Decides judgement) (outside : Outside σ κ)
    (schedule : List (ι × Registration σ)) :
    (handles.serve outside schedule).performed.map (fun turn => (turn.1, turn.2.reply)) =
      schedule.map fun turn => (turn.1, (judgement turn.2).reply) := by
  induction schedule generalizing handles outside with
  | nil => rfl
  | cons turn rest hyp =>
    let performed := handles.value.register turn.2 outside
    have told : performed.reply = (judgement turn.2).reply := by
      rw [Session.register_reply, decides]
    have later := hyp ⟨performed.session, handles.others⟩
      (Session.decides_register decides turn.2 outside) performed.outside
    rw [List.map_cons, ← told, ← later]
    rfl

/-- What has been collected is what the verdicts on all registrations count for. -/
theorem config_serve (handles : Handles (Session σ κ))
    (decides : handles.value.Decides judgement) (outside : Outside σ κ)
    (schedule : List (ι × Registration σ)) :
    (handles.serve outside schedule).config =
      handles.value.config.absorbAll
        (schedule.flatMap fun turn => (judgement turn.2).absorbed?.toList) := by
  induction schedule generalizing handles outside with
  | nil => rfl
  | cons turn rest hyp =>
    let performed := handles.value.register turn.2 outside
    have stored : performed.session.config =
        handles.value.config.absorbAll (judgement turn.2).absorbed?.toList := by
      rw [Session.register_session, decides]
    have later := hyp ⟨performed.session, handles.others⟩
      (Session.decides_register decides turn.2 outside) performed.outside
    rw [stored] at later
    rw [List.flatMap_cons, Configuration.absorbAll, List.foldl_append]
    exact later

/-- The engine is notified of what the verdicts on all registrations send. -/
theorem notifications_serve (handles : Handles (Session σ κ))
    (decides : handles.value.Decides judgement) (outside : Outside σ κ)
    (schedule : List (ι × Registration σ)) :
    (handles.serve outside schedule).notifications =
      if handles.value.engine.isSome then
        schedule.flatMap fun turn => (judgement turn.2).sent?.toList
      else [] := by
  induction schedule generalizing handles outside with
  | nil =>
    rw [List.flatMap_nil, ite_self]
    rfl
  | cons turn rest hyp =>
    let performed := handles.value.register turn.2 outside
    have first : Event.notifications performed.events =
        if handles.value.engine.isSome then (judgement turn.2).sent?.toList else [] := by
      rw [Session.register_notifications, decides]
    have still : performed.session.engine = handles.value.engine := by
      rw [Session.register_session]
    have later := hyp ⟨performed.session, handles.others⟩
      (Session.decides_register decides turn.2 outside) performed.outside
    have both : (handles.serve outside (turn :: rest)).notifications =
        Event.notifications performed.events ++
          (Handles.serve ⟨performed.session, handles.others⟩ performed.outside
            rest).notifications :=
      Event.notifications_append _ _
    rw [both, first, later, still, List.flatMap_cons]
    split <;> rfl

/-- Where only one client registers a generated resource, its contents come from the turns of that
client. -/
theorem filter_files_of_client [DecidableEq ι] {name : String} {client : ι}
    {schedule : List (ι × Registration σ)}
    (only : ∀ turn ∈ schedule, ∀ content, turn.2 = .registerResource name content →
      turn.1 = client) :
    (schedule.flatMap fun turn => turn.2.files).filter (fun file => file.1 = name) =
      ((schedule.filter fun turn => turn.1 = client).flatMap fun turn =>
        turn.2.files).filter fun file => file.1 = name := by
  induction schedule with
  | nil => rfl
  | cons turn rest hyp =>
    have later := hyp fun other among => only other (List.mem_cons_of_mem _ among)
    rw [List.flatMap_cons, List.filter_append, later]
    by_cases own : turn.1 = client
    · rw [List.filter_cons_of_pos (by simpa), List.flatMap_cons, List.filter_append]
    · have foreign : turn.2.files.filter (fun file => file.1 = name) = [] := by
        rw [List.filter_eq_nil_iff]
        intro file stored same
        cases registered : turn.2 with
        | registerResource held content =>
          rw [registered] at stored
          have held : held = name := by
            rw [List.mem_singleton.mp stored] at same
            exact of_decide_eq_true same
          rw [held] at registered
          exact own (only turn List.mem_cons_self content registered)
        | _ =>
          rw [registered] at stored
          exact absurd stored List.not_mem_nil
      rw [List.filter_cons_of_neg (by simpa), foreign, List.nil_append]

/-- Clients that share a session with a steady type system are told the same in every order that
keeps the order of each client's own work. The engine is notified of the same, in some order. The
same is collected, up to order and with no proxy twice; and the content of a generated resource is
the same if only one client registers it. -/
theorem serve_agrees [DecidableEq ι] {handles : Handles (Session σ κ)}
    (reachable : handles.value.Reachable) (steady : handles.value.system.Steady)
    {work : ι → List (Registration σ)} {first second : List (ι × Registration σ)}
    (left : Interleaves work first) (right : Interleaves work second) (outside : Outside σ κ) :
    let one := handles.serve outside first
    let other := handles.serve outside second
    (∀ client, one.replies client = other.replies client) ∧
    one.notifications.Perm other.notifications ∧
    one.config.SameUpToOrder other.config ∧
    one.config.proxies.toList.Nodup ∧ other.config.proxies.toList.Nodup ∧
    ∀ name client,
      (∀ someone content, .registerResource name content ∈ work someone → someone = client) →
      one.config.files.get? name = other.config.files.get? name := by
  intro one other
  let judgement := fun registration => handles.value.verdict registration outside
  have decides : handles.value.Decides judgement := Session.decides_of_steady steady outside
  have same : first.Perm second := perm_of_interleaves left right
  have distinct := Session.nodup_proxies_of_reachable reachable
  have oneConfig := config_serve handles decides outside first
  have otherConfig := config_serve handles decides outside second
  have oneSent := notifications_serve handles decides outside first
  have otherSent := notifications_serve handles decides outside second
  refine ⟨?replies, ?notifications, ?config, ?oneDistinct, ?otherDistinct, ?contents⟩
  case replies =>
    intro client
    have told {schedule : List (ι × Registration σ)} :
        (handles.serve outside schedule).replies client =
          (schedule.filter fun turn => turn.1 = client).map fun turn =>
            (judgement turn.2).reply := by
      have turns := congrArg
        (fun turns => (turns.filter fun turn => turn.1 = client).map Prod.snd)
        (map_reply_serve handles decides outside schedule)
      simp only [List.filter_map, List.map_map] at turns
      exact turns
    rw [told, told, left, right]
  case notifications =>
    rw [oneSent, otherSent]
    split
    · exact same.flatMap_right _
    · exact List.Perm.refl _
  case config =>
    rw [oneConfig, otherConfig]
    exact Configuration.sameUpToOrder_absorbAll distinct (same.flatMap_right _)
  case oneDistinct =>
    rw [oneConfig, Configuration.proxies_absorbAll]
    exact nodup_appendAllNew distinct _
  case otherDistinct =>
    rw [otherConfig, Configuration.proxies_absorbAll]
    exact nodup_appendAllNew distinct _
  case contents =>
    intro name client only
    have contents {schedule : List (ι × Registration σ)} (interleaved : Interleaves work schedule) :
        ((schedule.flatMap fun turn => (judgement turn.2).absorbed?.toList).flatMap
            Notification.files).filter (fun file => file.1 = name) =
          (((work client).map (client, ·)).flatMap fun turn => turn.2.files).filter
            fun file => file.1 = name := by
      have files : ∀ turn : ι × Registration σ,
          (judgement turn.2).absorbed?.toList.flatMap Notification.files = turn.2.files :=
        fun turn => handles.value.files_verdict turn.2 outside
      rw [List.flatMap_assoc, funext files, filter_files_of_client, interleaved]
      intro turn scheduled content registered
      have among := mem_work_of_interleaves interleaved scheduled
      rw [registered] at among
      exact only turn.1 content among
    rw [oneConfig, otherConfig, Configuration.files_absorbAll, Configuration.files_absorbAll,
      OrderedMap.get?_insertAll, OrderedMap.get?_insertAll, contents left, contents right]

end Serving

/-- A session that an engine follows and that holds one generated resource. -/
def pluginSession : Session Nat Nat :=
  ((Session.new { debugVerify := true } (.known pluginTypes)).ending ⟨0, 0⟩
    [.attach Session.flakyEngine, .register (.registerResource "services" [0])]).1

/-- One client registers a service and its resource, another one a plugin. -/
def pluginWork : Bool → List (Registration Nat)
  | false =>
    [.addClass { name := "app.Service", methods := [{ name := "run" }] },
      .registerResource "services" [1], .registerResource "services" [2],
      .addProxy ["app.Service"] true]
  | true =>
    [.addClass { name := "app.Plugin", methods := [{ name := "load" }] },
      .addClass { name := "app.Service", methods := [{ name := "stop" }, { name := "run" }] },
      .addProxy ["app.Plugin"] true, .addProxy ["app.Service"] true,
      .initializeAt .runTime .packages ["app"]]

/-- One client comes after the other. -/
def oneAfterOther : List (Bool × Registration Nat) :=
  (pluginWork false).map (false, ·) ++ (pluginWork true).map (true, ·)

/-- One client comes in between. -/
def inBetween : List (Bool × Registration Nat) :=
  ((pluginWork true).take 2).map (true, ·) ++ (pluginWork false).map (false, ·) ++
    ((pluginWork true).drop 2).map (true, ·)

/-- Two orders of the same work that lead to different configurations, which hold the same. -/
theorem plugin_orders_agree :
    let handles := (Handles.new pluginSession).clone
    let one := handles.serve ⟨0, 0⟩ oneAfterOther
    let other := handles.serve ⟨0, 0⟩ inBetween
    handles.value.Reachable ∧ handles.value.system.Steady ∧
    Interleaves pluginWork oneAfterOther ∧ Interleaves pluginWork inBetween ∧
    one.config ≠ other.config ∧
    (∀ client, one.replies client = other.replies client) ∧
    one.notifications.Perm other.notifications ∧
    one.config.SameUpToOrder other.config ∧
    one.config.proxies.toList.Nodup ∧ other.config.proxies.toList.Nodup ∧
    (∀ someone content, .registerResource "services" content ∈ pluginWork someone →
      someone = false) ∧
    one.config.files.get? "services" = other.config.files.get? "services" := by
  intro handles one other
  have reachable : handles.value.Reachable := ⟨_, _, _, _, rfl⟩
  have steady : handles.value.system.Steady := TypeSystem.steady_known pluginTypes
  have left : Interleaves pluginWork oneAfterOther := by
    intro client
    cases client <;> rfl
  have right : Interleaves pluginWork inBetween := by
    intro client
    cases client <;> rfl
  have different : one.config ≠ other.config := by decide +kernel
  have only : ∀ someone content, .registerResource "services" content ∈ pluginWork someone →
      someone = false := by
    intro someone content among
    cases someone with
    | false => rfl
    | true => simp [pluginWork] at among
  obtain ⟨replies, notifications, config, oneDistinct, otherDistinct, contents⟩ :=
    serve_agrees reachable steady left right ⟨0, 0⟩
  exact ⟨reachable, steady, left, right, different, replies, notifications, config, oneDistinct,
    otherDistinct, only, contents "services" false only⟩

end ImageConfig
