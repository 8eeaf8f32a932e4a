import ImageConfig.Session

/-!
# What storing does

Storing a notification reports the conflicts of it and gives a configuration
(`Configuration.run_store`). Names that are requested for a phase are looked up one by one while
they are added one by one, and the outcome is the same as if all were looked up first and all were
added then (`Timing.run_request`): a name is added to one phase and looked up in the other one, so
no lookup can see what the request has added (`Timing.conflicts_add`).
-/

namespace ImageConfig

namespace Timing

/-- A name that is added to a phase makes no difference to what conflicts with that phase. -/
theorem conflicts_add (timing : Timing) (phase : Phase) (target : Target) (name : String) :
    (timing.add phase target name).conflicts phase target = timing.conflicts phase target := by
  have other : (timing.add phase target name).names phase.opposite target =
      timing.names phase.opposite target := by
    cases phase <;> cases target <;> rfl
  funext next
  rw [conflicts, other]
  rfl

/-- A request reports each of its names that conflicts with the timing before it, in order, and adds
all of them. -/
theorem run_request (timing : Timing) (phase : Phase) (target : Target) (names : List String) :
    (request phase target names).run timing =
      ⟨(), (names.filter (timing.conflicts phase target)).map fun name =>
          .logged (.phaseConflict phase target name),
        timing.addAll phase target names⟩ := by
  induction names generalizing timing with
  | nil => rfl
  | cons name rest hyp =>
    have later := hyp (timing.add phase target name)
    rw [conflicts_add] at later
    have all : timing.addAll phase target (name :: rest) =
        (timing.add phase target name).addAll phase target rest := rfl
    by_cases held : timing.conflicts phase target name = true
    · rw [all, List.filter_cons_of_pos held]
      simp [request, held, later]
    · rw [all, List.filter_cons_of_neg held]
      simp [request, held, later]

end Timing

namespace Configuration

/-- The conflicts of a notification with what a configuration holds. -/
def conflicts (config : Configuration) : Notification → List Diagnostic
  | .initializeAt phase target names =>
    (names.filter (config.timing.conflicts phase target)).map (.phaseConflict phase target)
  | _ => []

/-- A conflict is about a name that is requested for a phase. -/
theorem eq_phaseConflict_of_mem_conflicts {config : Configuration} {notification : Notification}
    {diagnostic : Diagnostic} (among : diagnostic ∈ config.conflicts notification) :
    ∃ phase target name, diagnostic = .phaseConflict phase target name := by
  cases notification with
  | initializeAt phase target names =>
    obtain ⟨name, _, same⟩ := List.mem_map.mp among
    exact ⟨phase, target, name, same.symm⟩
  | _ => exact absurd among List.not_mem_nil

/-- Storing reports the conflicts with what was held before, and nothing else. -/
theorem run_store (config : Configuration) (notification : Notification) :
    (store notification).run config =
      ⟨(), (config.conflicts notification).map .logged, config.absorb notification⟩ := by
  have events : ((store notification).run config).events =
      (config.conflicts notification).map .logged := by
    cases notification with
    | initializeAt phase target names =>
      have requested := congrArg Observed.events (config.timing.run_request phase target names)
      rw [conflicts, List.map_map]
      exact requested
    | addResource name isBundle => cases isBundle <;> rfl
    | _ => rfl
  rw [← events]
  rfl

/-- Names that are requested for a phase are all added to it. -/
theorem absorb_initializeAt (config : Configuration) (phase : Phase) (target : Target)
    (names : List String) :
    config.absorb (.initializeAt phase target names) =
      { config with timing := config.timing.addAll phase target names } := by
  have requested := congrArg Observed.after (config.timing.run_request phase target names)
  exact congrArg (fun timing => { config with timing }) requested

end Configuration

namespace Session

variable {σ κ : Type}

/-- What counts is stored after each conflict was reported, and then the engine is notified. -/
theorem settle_accepted (session : Session σ κ) (reply : Reply) (absorbed sent : Notification)
    (outside : Outside σ κ) :
    let forwarded := (Engine.forward session.engine sent.operation sent).run outside.engine
    session.settle (.accepted reply absorbed sent) outside =
      { reply
        events := (session.config.conflicts absorbed).map .logged ++ forwarded.events
        session := { session with config := session.config.absorb absorbed }
        outside := { outside with engine := forwarded.after } } := by
  simp only [settle, Configuration.run_store]

end Session

end ImageConfig
