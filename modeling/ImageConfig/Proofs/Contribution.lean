import ImageConfig.Proofs.Storing

/-!
# What notifications contribute

Every collection of a configuration grows by what each notification contributes to it and by
nothing else, so after any list of notifications it is a closed form of the contributions in order:
class entries merged in one after the other, texts and proxies at their first occurrence, contents
of generated resources at their last one. A single notification is one step of such a fold, and
`view_absorbAll` carries the step to lists for every collection at once.
-/

namespace ImageConfig

namespace Notification

/-- The class entries that are merged in. -/
def classes : Notification → List ClassEntry
  | addClass entry => [entry]
  | addReflection bulk => bulk.entries
  | _ => []

/-- The resource patterns that are added. -/
def patterns : Notification → List String
  | addResources resources => resources.patterns.toList
  | addResource pattern false => [pattern]
  | registerResource name _ => [name]
  | _ => []

/-- The bundle names that are added. -/
def bundles : Notification → List String
  | addResources resources => resources.bundles.toList
  | addResource name true => [name]
  | _ => []

/-- The proxies that are added. -/
def proxies : Notification → List Proxy
  | addProxy interfaces => [interfaces]
  | _ => []

/-- The names that are requested for a phase and kind of target. -/
def timed (phase : Phase) (target : Target) : Notification → List String
  | initializeAt requested kind names => if requested = phase ∧ kind = target then names else []
  | _ => []

/-- The generated resources that are stored. -/
def files : Notification → List (String × List UInt8)
  | registerResource name content => [(name, content)]
  | _ => []

end Notification

namespace OrderedMap

variable {κ ν : Type}

/-- Maps with the same entries in the same order are equal. -/
theorem ext_entries {left right : OrderedMap κ ν} (same : left.entries = right.entries) :
    left = right := by
  cases left
  cases right
  cases same
  rfl

variable [DecidableEq κ]

/-- The map with the listed pairs inserted in order. -/
def insertAll (map : OrderedMap κ ν) (pairs : List (κ × ν)) : OrderedMap κ ν :=
  pairs.foldl (fun map pair => map.insert pair.1 pair.2) map

/-- The keys after insertions are the keys before and then the new ones. -/
theorem keys_insertAll (map : OrderedMap κ ν) (pairs : List (κ × ν)) :
    (map.insertAll pairs).keys = appendAllNew map.keys (pairs.map Prod.fst) := by
  induction pairs generalizing map with
  | nil => rfl
  | cons pair rest hyp =>
    have step : map.insertAll (pair :: rest) = (map.insert pair.1 pair.2).insertAll rest := rfl
    rw [step, hyp, keys_insert, List.map_cons, appendAllNew_cons]

/-- Inserting under a new key is appending. -/
theorem replaceOrAppend_of_not_mem {key : κ} {value : ν} {entries : List (κ × ν)}
    (fresh : key ∉ entries.map Prod.fst) :
    replaceOrAppend key value entries = entries ++ [(key, value)] := by
  induction entries with
  | nil => rfl
  | cons entry rest hyp =>
    rw [List.map_cons, List.mem_cons, not_or] at fresh
    rw [replaceOrAppend, if_neg (Ne.symm fresh.1), hyp fresh.2, List.cons_append]

/-- A map with pairs of new and distinct keys inserted holds them after what it held. -/
theorem entries_insertAll {map : OrderedMap κ ν} {pairs : List (κ × ν)}
    (distinct : ((map.entries ++ pairs).map Prod.fst).Nodup) :
    (map.insertAll pairs).entries = map.entries ++ pairs := by
  induction pairs generalizing map with
  | nil => exact (List.append_nil _).symm
  | cons pair rest hyp =>
    have fresh : pair.1 ∉ map.entries.map Prod.fst := by
      intro held
      rw [List.map_append, List.map_cons, List.nodup_append] at distinct
      exact distinct.2.2 pair.1 held pair.1 List.mem_cons_self rfl
    have appended : (map.insert pair.1 pair.2).entries = map.entries ++ [pair] :=
      replaceOrAppend_of_not_mem fresh
    rw [List.append_cons, ← appended] at distinct ⊢
    exact hyp distinct

/-- Under each key stands the value inserted there last, or the one that was there before. -/
theorem get?_insertAll (map : OrderedMap κ ν) (pairs : List (κ × ν)) (key : κ) :
    (map.insertAll pairs).get? key =
      (((pairs.filter fun pair => pair.1 = key).getLast?).map Prod.snd).or (map.get? key) := by
  induction pairs generalizing map with
  | nil => rfl
  | cons pair rest hyp =>
    have step : map.insertAll (pair :: rest) = (map.insert pair.1 pair.2).insertAll rest := rfl
    rw [step, hyp, get?_insert]
    by_cases wanted : pair.1 = key
    · have kept : (pair :: rest).filter (fun pair => pair.1 = key) =
          pair :: rest.filter fun pair => pair.1 = key := List.filter_cons_of_pos (by simpa)
      rw [if_pos wanted, kept, List.getLast?_cons]
      cases (rest.filter fun pair => pair.1 = key).getLast? <;> rfl
    · have dropped : (pair :: rest).filter (fun pair => pair.1 = key) =
          rest.filter fun pair => pair.1 = key := List.filter_cons_of_neg (by simpa)
      rw [if_neg wanted, dropped]

end OrderedMap

/-- Inserting members one after the other appends those that are new. -/
theorem OrderedSet.toList_foldl_insert {α : Type} [DecidableEq α] (set : OrderedSet α)
    (members : List α) :
    (members.foldl OrderedSet.insert set).toList = appendAllNew set.toList members :=
  (List.foldl_hom OrderedSet.toList fun _ _ => rfl).symm

namespace Timing

/-- Names are inserted one after the other into the set of their phase and target, and into no
other. -/
theorem names_addAll (timing : Timing) (phase requested : Phase) (target kind : Target)
    (names : List String) :
    (timing.addAll requested kind names).names phase target =
      if requested = phase ∧ kind = target then names.foldl .insert (timing.names phase target)
      else timing.names phase target := by
  induction names generalizing timing with
  | nil => exact (ite_self _).symm
  | cons name rest hyp =>
    have step : timing.addAll requested kind (name :: rest) =
        (timing.add requested kind name).addAll requested kind rest := rfl
    rw [step, hyp, names_add]
    by_cases own : requested = phase ∧ kind = target
    · obtain ⟨rfl, rfl⟩ := own
      simp
    · rw [if_neg own, if_neg own, if_neg own]

/-- Requesting names appends them to the set of their phase and target and touches no other. -/
theorem toList_names_addAll (timing : Timing) (phase requested : Phase) (target kind : Target)
    (names : List String) :
    ((timing.addAll requested kind names).names phase target).toList =
      appendAllNew (timing.names phase target).toList
        (if requested = phase ∧ kind = target then names else []) := by
  rw [names_addAll]
  by_cases own : requested = phase ∧ kind = target
  · rw [if_pos own, if_pos own, OrderedSet.toList_foldl_insert]
  · rw [if_neg own, if_neg own]
    rfl

end Timing

namespace Configuration

/-- A part of the configuration that every notification changes by folding its contribution in
is, after a list of notifications, the fold of all contributions in order. -/
theorem view_absorbAll {β γ : Type} (view : Configuration → β) {step : β → γ → β}
    {contribution : Notification → List γ}
    (once : ∀ config notification,
      view (absorb config notification) = (contribution notification).foldl step (view config))
    (config : Configuration) (notifications : List Notification) :
    view (config.absorbAll notifications) =
      (notifications.flatMap contribution).foldl step (view config) := by
  induction notifications generalizing config with
  | nil => rfl
  | cons first rest hyp =>
    have next : config.absorbAll (first :: rest) = (config.absorb first).absorbAll rest := rfl
    rw [next, hyp, once, List.flatMap_cons, List.foldl_append]

/-- The classes are those before with all contributed entries merged in. -/
theorem reflection_absorbAll (config : Configuration) (notifications : List Notification) :
    (config.absorbAll notifications).reflection =
      config.reflection.mergeAll (notifications.flatMap Notification.classes) := by
  refine view_absorbAll _ (fun config notification => ?_) config notifications
  rcases notification with _ | _ | _ | _ | ⟨_, _ | _⟩ | _ | _ <;> rfl

/-- The patterns are those before and then the contributed ones that are new. -/
theorem patterns_absorbAll (config : Configuration) (notifications : List Notification) :
    (config.absorbAll notifications).resources.patterns.toList =
      appendAllNew config.resources.patterns.toList
        (notifications.flatMap Notification.patterns) := by
  refine view_absorbAll (fun config => config.resources.patterns.toList)
    (fun config notification => ?_) config notifications
  rcases notification with _ | _ | _ | _ | ⟨_, _ | _⟩ | _ | _ <;> rfl

/-- The bundles are those before and then the contributed ones that are new. -/
theorem bundles_absorbAll (config : Configuration) (notifications : List Notification) :
    (config.absorbAll notifications).resources.bundles.toList =
      appendAllNew config.resources.bundles.toList
        (notifications.flatMap Notification.bundles) := by
  refine view_absorbAll (fun config => config.resources.bundles.toList)
    (fun config notification => ?_) config notifications
  rcases notification with _ | _ | _ | _ | ⟨_, _ | _⟩ | _ | _ <;> rfl

/-- The proxies are those before and then the contributed ones that are new. -/
theorem proxies_absorbAll (config : Configuration) (notifications : List Notification) :
    (config.absorbAll notifications).proxies.toList =
      appendAllNew config.proxies.toList (notifications.flatMap Notification.proxies) := by
  refine view_absorbAll (fun config => config.proxies.toList)
    (fun config notification => ?_) config notifications
  rcases notification with _ | _ | _ | _ | ⟨_, _ | _⟩ | _ | _ <;> rfl

/-- The names of a phase and target are those before and then the contributed ones that are new. -/
theorem timing_absorbAll (config : Configuration) (notifications : List Notification)
    (phase : Phase) (target : Target) :
    ((config.absorbAll notifications).timing.names phase target).toList =
      appendAllNew (config.timing.names phase target).toList
        (notifications.flatMap (Notification.timed phase target)) := by
  refine view_absorbAll (fun config => (config.timing.names phase target).toList)
    (fun config notification => ?_) config notifications
  cases notification with
  | initializeAt requested kind names =>
    rw [absorb_initializeAt]
    exact Timing.toList_names_addAll config.timing phase requested target kind names
  | addResource name isBundle => cases isBundle <;> rfl
  | _ => rfl

/-- The generated resources are those before with the contributed ones inserted in order. -/
theorem files_absorbAll (config : Configuration) (notifications : List Notification) :
    (config.absorbAll notifications).files =
      config.files.insertAll (notifications.flatMap Notification.files) := by
  refine view_absorbAll _ (fun config notification => ?_) config notifications
  rcases notification with _ | _ | _ | _ | ⟨_, _ | _⟩ | _ | _ <;> rfl

end Configuration

end ImageConfig
