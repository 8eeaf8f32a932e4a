import ImageConfig.Proofs.FailureLines

/-!
# Registration of proxies

A proxy is registered as a whole or not at all. Where its names are to be verified, they are looked
up in order, and the first one that does not stand for an interface ends the check
(`Verifier.run_checkAll`): the names after it are not looked up, nothing is stored, and no engine
hears of the proxy. What the type system would answer after the first no makes no difference,
because it is not asked.
-/

namespace ImageConfig

namespace Event

/-- The name that an event looks up, if it is a lookup. -/
def lookup? : Event → Option String
  | asked (.resolve name _) => some name
  | _ => none

/-- The names that are looked up among events, in order. -/
def lookups (events : List Event) : List String := events.filterMap lookup?

/-- Names looked up in events that follow one another follow one another. -/
theorem lookups_append (first second : List Event) :
    lookups (first ++ second) = lookups first ++ lookups second :=
  List.filterMap_append

/-- A lookup that is followed by questions to types is one lookup. -/
theorem lookups_asked (name : String) (found : Bool) (types : List String) :
    lookups ((TypeCall.resolve name found :: types.map .isInterface).map .asked) = [name] := by
  have questions : lookups ((types.map TypeCall.isInterface).map .asked) = [] := by
    unfold lookups
    rw [List.map_map, List.filterMap_map]
    exact List.filterMap_eq_nil_iff.mpr fun _ _ => rfl
  exact congrArg (name :: ·) questions

/-- Only verification looks names up. -/
theorem lookups_filter_ofVerification (events : List Event) :
    lookups (events.filter ofVerification) = lookups events := by
  refine filterMap_filter_ofVerification (fun event other => ?_) events
  cases event with
  | asked call => cases other
  | notified notification taken => rfl
  | logged diagnostic => rfl

end Event

variable {σ : Type}

/-- The check of a list of names holds if the type system says of each of them that it stands for an
interface. Up to and including the first one of which it does not say so the names are looked up, in
order, and the type system is left as these lookups leave it. -/
theorem Verifier.run_checkAll (verifier : Verifier σ) (names : List String) (state : σ) :
    let checked := (verifier.checkAll .interface names).run state
    let answers := (verifier.system.interfaceAnswers names state).1
    let asked := names.take ((answers.takeWhile id).length + 1)
    checked.value = answers.all id ∧ Event.lookups checked.events = asked ∧
      checked.after = (verifier.system.interfaceAnswers asked state).2 := by
  induction names generalizing state with
  | nil => exact ⟨rfl, rfl, rfl⟩
  | cons name rest hyp =>
    obtain ⟨types, checked⟩ := verifier.run_checkAll_cons name rest state
    obtain ⟨value, looked, after⟩ :=
      hyp (verifier.system.answer name FoundType.isInterface state).2
    dsimp only
    rw [checked, TypeSystem.interfaceAnswers]
    simp only [Event.lookups_append, Event.lookups_asked, List.all_cons, List.takeWhile_cons, id]
    cases (verifier.system.answer name FoundType.isInterface state).1 with
    | true => exact ⟨value, congrArg (name :: ·) looked, after⟩
    | false =>
      -- The report is all that is left.
      unfold report
      cases verifier.debug <;> exact ⟨rfl, rfl, rfl⟩

namespace Session

variable {κ : Type}

/-- A registration of which nothing counts does nothing but verify. -/
theorem register_of_refused {session : Session σ κ} {registration : Registration σ}
    {outside : Outside σ κ} {reply : Reply}
    (refused : session.verdict registration outside = .refused reply) :
    let judged := (session.verifier.judge registration).run outside.types
    session.register registration outside =
      ⟨reply, judged.events, session, { outside with types := judged.after }⟩ := by
  have value : ((session.verifier.judge registration).run outside.types).value =
      .refused reply := refused
  dsimp only
  rw [register, value]
  simp only [settle, List.append_nil]

/-- What the type system answers decides on a proxy whose names are to be verified, and a proxy that
counts is passed on as it is. -/
theorem verdict_addProxy_eq (session : Session σ κ) (outside : Outside σ κ) (names : Proxy)
    (verify : Bool) :
    session.verdict (.addProxy names verify) outside =
      .ofCheck names
        (!verify || (session.system.interfaceAnswers names outside.types).1.all id) := by
  obtain ⟨value, _⟩ := session.verifier.run_checkAll names outside.types
  rw [verdict_addProxy, value]
  rfl

/-- The lookups of a proxy, and the state in which they leave the type system. -/
theorem lookups_addProxy (session : Session σ κ) (outside : Outside σ κ) (names : Proxy)
    (verify : Bool) :
    let called := session.register (.addProxy names verify) outside
    let answers := (session.system.interfaceAnswers names outside.types).1
    let asked := if verify then names.take ((answers.takeWhile id).length + 1) else []
    Event.lookups called.events = asked ∧
      called.outside.types = (session.system.interfaceAnswers asked outside.types).2 := by
  dsimp only
  rw [← Event.lookups_filter_ofVerification, register_verification, register_types]
  cases verify with
  | false => exact ⟨rfl, rfl⟩
  | true =>
    obtain ⟨_, looked, after⟩ := session.verifier.run_checkAll names outside.types
    have judged : ((session.verifier.judge (.addProxy names true)).run outside.types).events =
        ((session.verifier.checkAll .interface names).run outside.types).events :=
      List.append_nil _
    rw [judged]
    exact ⟨looked, after⟩

/-- A proxy whose names are to be verified is registered if the type system says of each of them, in
order, that it stands for an interface, and the names are looked up until it does not say so. A
proxy whose names are not to be verified is registered without any lookup. A proxy that is not
registered leaves the session, the engine and the notifications as they are. One that is registered
comes to the end of the proxies, unless the same list of names is there already, and changes nothing
else of the session. -/
theorem addProxy_all_or_nothing (session : Session σ κ) (outside : Outside σ κ)
    (names : Proxy) (verify : Bool) :
    let called := session.register (.addProxy names verify) outside
    let answers := (session.system.interfaceAnswers names outside.types).1
    let lookups := Event.lookups called.events
    (verify = true → called.reply = .registered (answers.all id) ∧
      lookups = names.take ((answers.takeWhile id).length + 1)) ∧
    (verify = false → called.reply = .registered true ∧ lookups = []) ∧
    called.outside.types = (session.system.interfaceAnswers lookups outside.types).2 ∧
    (called.reply = .registered false → called.session = session ∧
      Event.notifications called.events = [] ∧ called.outside.engine = outside.engine) ∧
    (called.reply = .registered true →
      let old := session.config.proxies.toList
      called.session = { session with
        config := { session.config with
          proxies := ⟨if names ∈ old then old else old ++ [names]⟩ } }) := by
  intro called answers lookups
  obtain ⟨looked, types⟩ := session.lookups_addProxy outside names verify
  have verdict : session.verdict (.addProxy names verify) outside =
      .ofCheck names (!verify || answers.all id) := session.verdict_addProxy_eq outside names verify
  have told : called.reply = .registered (!verify || answers.all id) := by
    rw [session.register_reply, verdict]
    cases !verify || answers.all id <;> rfl
  refine ⟨?verified, ?unverified, ?types, ?refused, ?registered⟩
  case verified =>
    rintro rfl
    exact ⟨told, looked⟩
  case unverified =>
    rintro rfl
    exact ⟨told, looked⟩
  case types =>
    rw [show lookups = _ from looked]
    exact types
  case refused =>
    intro no
    have fails : (!verify || answers.all id) = false := Reply.registered.inj (told.symm.trans no)
    rw [fails] at verdict
    have done : called = _ := register_of_refused verdict
    rw [done]
    have quiet := Event.notifications_of_verification
      (session.verifier.emits_judge (.addProxy names verify) outside.types)
    exact ⟨rfl, quiet, rfl⟩
  case registered =>
    intro yes
    have holds : (!verify || answers.all id) = true := Reply.registered.inj (told.symm.trans yes)
    rw [holds] at verdict
    have stored : called.session = _ := session.register_session (.addProxy names verify) outside
    rw [stored, verdict]
    have added (old : List Proxy) :
        appendNew old names = if names ∈ old then old else old ++ [names] := by
      by_cases held : names ∈ old <;> simp [appendNew, held]
    exact congrArg
      (fun proxies => { session with config := { session.config with proxies := ⟨proxies⟩ } })
      (added session.config.proxies.toList)

end Session

end ImageConfig
