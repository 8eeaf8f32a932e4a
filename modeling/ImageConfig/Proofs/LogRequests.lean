import Mathlib.Data.List.Basic
import Mathlib.Data.List.Induction
import ImageConfig.LogFile
import ImageConfig.Proofs.PathSpelling

/-!
# Requests for a log

The first request that succeeds decides on the log of a program for good. What attempts to start a
log come to is up to the outside: a call is a request together with what would come of the attempt
if it leads to one (`LogCall`), so any list of calls is a run of a program in some surroundings. A
history keeps what the calls were told and which attempts were made (`LogHistory`).

A call that is not well formed fails before anything else is looked at, and leads to no attempt; so
does any call once a log is active. This is the invariant that carries the main statement
(`LogHistory.Decided`): a log is active exactly if some call has succeeded, and then it is the one
that the first such call asked for.
-/

namespace ImageConfig

/-! ## What a request asks for -/

/-- The text is `core` with white space around it, and `core` neither begins nor ends with any. -/
structure Text.Trims (text core : String) : Prop where
  /-- There is nothing but white space around the core. -/
  around : ∃ before after, text.toList = before ++ core.toList ++ after ∧
    (∀ char ∈ before, isWhiteSpace char = true) ∧ ∀ char ∈ after, isWhiteSpace char = true
  /-- The core begins with something else. -/
  first : ∀ char ∈ core.toList.head?, isWhiteSpace char = false
  /-- The core ends with something else. -/
  last : ∀ char ∈ core.toList.getLast?, isWhiteSpace char = false

/-- What is trimmed from the beginning is white space, and what is left begins with something else.
-/
theorem Text.exists_blank_trimStart (chars : List Char) :
    ∃ blank, chars = blank ++ trimStart chars ∧ (∀ char ∈ blank, isWhiteSpace char = true) ∧
      ∀ char ∈ (trimStart chars).head?, isWhiteSpace char = false := by
  refine ⟨chars.takeWhile isWhiteSpace, List.takeWhile_append_dropWhile.symm,
    List.all_eq_true.mp List.all_takeWhile, fun char first => ?_⟩
  have blank := List.head?_dropWhile_not isWhiteSpace chars
  rwa [show (chars.dropWhile isWhiteSpace).head? = some char from first] at blank

/-- A text that is trimmed has lost the white space around it and nothing else. -/
theorem Text.trims_trimmed (text : String) : Trims text (trimmed text) := by
  let opened := trimStart text.toList
  let core := (trimStart opened.reverse).reverse
  have written : (trimmed text).toList = core := String.toList_ofList
  obtain ⟨before, split, blankBefore, first⟩ := exists_blank_trimStart text.toList
  obtain ⟨after, rest, blankAfter, last⟩ := exists_blank_trimStart opened.reverse
  have closed : opened = core ++ after.reverse := by
    rw [← List.reverse_append, ← rest, List.reverse_reverse]
  constructor
  case around =>
    refine ⟨before, after.reverse, ?_, blankBefore, fun char among => ?_⟩
    · rw [written, List.append_assoc, ← closed]
      exact split
    · exact blankAfter char (List.mem_reverse.mp among)
  case first =>
    rw [written]
    intro char begins
    refine first char ?_
    show opened.head? = some char
    rw [closed, List.head?_append, show core.head? = some char from begins]
    rfl
  case last =>
    rw [written, List.getLast?_reverse]
    exact last

/-- The name stands for the level: it is the name of the level, or `warning` for `warn`. -/
def Level.IsNamed (level : Level) (name : String) : Prop :=
  name = level.name ∨ level = .warn ∧ name = "warning"

/-- A level is found under the names that stand for it. -/
theorem Level.ofName?_eq_some_iff {name : String} {level : Level} :
    ofName? name = some level ↔ level.IsNamed name := by
  unfold ofName? IsNamed
  split <;> cases level <;> simp_all [Level.name]

namespace LogSettings

/-- The settings are those that a request asks for: the level is named, but for white space around
it and capital letters of ASCII, and the directory is absolute and given, but for white space around
it. -/
structure AskedBy (settings : LogSettings) (level directory : String) : Prop where
  /-- The level is named. -/
  level : settings.level.IsNamed ((Text.trimmed level).map Char.toLower)
  /-- The directory is given. -/
  directory : settings.directory = ⟨Text.trimmed directory⟩
  /-- The directory is absolute. -/
  absolute : settings.directory.isAbsolute = true

/-- A request that names no level fails for that, whatever its directory. -/
theorem ofRequest_of_unnamed {level : String} (directory : String)
    (unnamed : ∀ named : Level, ¬ named.IsNamed ((Text.trimmed level).map Char.toLower)) :
    ofRequest level directory =
      .error (.unsupportedLevel ((Text.trimmed level).map Char.toLower)) := by
  have none : Level.ofName? ((Text.trimmed level).map Char.toLower) = none :=
    Option.eq_none_iff_forall_ne_some.mpr fun named found =>
      unnamed named (Level.ofName?_eq_some_iff.mp found)
  unfold ofRequest levelOfRequest
  dsimp only
  rw [none]
  rfl

/-- A request that names a level goes on with its directory. -/
theorem ofRequest_of_named {level : String} (directory : String) {named : Level}
    (names : named.IsNamed ((Text.trimmed level).map Char.toLower)) :
    ofRequest level directory = (directoryOfRequest directory).map (⟨named, ·⟩) := by
  unfold ofRequest levelOfRequest
  dsimp only
  rw [Level.ofName?_eq_some_iff.mpr names]
  cases directoryOfRequest directory <;> rfl

/-- The directory of a request has to be there and to be absolute. -/
theorem directoryOfRequest_eq (directory : String) :
    let path : Path := ⟨Text.trimmed directory⟩
    directoryOfRequest directory =
      if path.text = "" then .error .emptyDirectory
      else if path.isAbsolute = true then .ok path
      else .error (.relativeDirectory path) := by
  unfold directoryOfRequest
  simp only [String.isEmpty_iff]
  rfl

/-- A request that names a level fails for a directory that is not there. -/
theorem ofRequest_of_empty {level directory : String} {named : Level}
    (names : named.IsNamed ((Text.trimmed level).map Char.toLower))
    (empty : Text.trimmed directory = "") :
    ofRequest level directory = .error .emptyDirectory := by
  rw [ofRequest_of_named directory names, directoryOfRequest_eq]
  dsimp only
  rw [if_pos empty]
  rfl

/-- A request that names a level fails for a directory that is not absolute. -/
theorem ofRequest_of_relative {level directory : String} {named : Level}
    (names : named.IsNamed ((Text.trimmed level).map Char.toLower))
    (some : Text.trimmed directory ≠ "")
    (relative : (⟨Text.trimmed directory⟩ : Path).isAbsolute = false) :
    ofRequest level directory = .error (.relativeDirectory ⟨Text.trimmed directory⟩) := by
  rw [ofRequest_of_named directory names, directoryOfRequest_eq]
  dsimp only
  rw [if_neg some, if_neg (ne_true_of_eq_false relative)]
  rfl

/-- An absolute path has a text. -/
theorem text_ne_empty_of_isAbsolute {path : Path} (absolute : path.isAbsolute = true) :
    path.text ≠ "" := by
  obtain ⟨rest, text⟩ := Path.isAbsolute_iff.mp absolute
  intro empty
  rw [empty] at text
  cases text

/-- A request that asks for settings names them. -/
theorem AskedBy.ofRequest_eq {settings : LogSettings} {level directory : String}
    (asked : settings.AskedBy level directory) : ofRequest level directory = .ok settings := by
  rw [ofRequest_of_named directory asked.level, directoryOfRequest_eq, ← asked.directory,
    if_neg (text_ne_empty_of_isAbsolute asked.absolute), if_pos asked.absolute]
  rfl

/-- A request names settings exactly if it asks for them. -/
theorem ofRequest_eq_ok_iff {level directory : String} {settings : LogSettings} :
    ofRequest level directory = .ok settings ↔ settings.AskedBy level directory := by
  refine ⟨fun ok => ?_, AskedBy.ofRequest_eq⟩
  let path : Path := ⟨Text.trimmed directory⟩
  by_cases named : ∃ found : Level, found.IsNamed ((Text.trimmed level).map Char.toLower)
  · obtain ⟨found, names⟩ := named
    by_cases empty : path.text = ""
    · rw [ofRequest_of_empty names empty] at ok
      cases ok
    · cases absolute : path.isAbsolute with
      | true =>
        have asked : AskedBy ⟨found, path⟩ level directory := ⟨names, rfl, absolute⟩
        obtain rfl : ⟨found, path⟩ = settings := Except.ok.inj (asked.ofRequest_eq.symm.trans ok)
        exact asked
      | false =>
        rw [ofRequest_of_relative names empty absolute] at ok
        cases ok
  · rw [ofRequest_of_unnamed directory fun found names => named ⟨found, names⟩] at ok
    cases ok

/-- Settings are compared in their directories first, component by component, and then in their
levels. -/
theorem confirm_eq (active requested : LogSettings) :
    active.confirm requested =
      if requested.directory.components = active.directory.components then
        if requested.level = active.level then .ok ()
        else .error (.otherLevel active.level requested.level)
      else .error (.otherDirectory active.directory requested.directory) := by
  unfold confirm Path.same
  by_cases directory : requested.directory.components = active.directory.components
  · by_cases level : requested.level = active.level
    · simp [directory, level]
      rfl
    · simp [directory, level, Ne.symm level]
      rfl
  · simp [directory, Ne.symm directory]
    rfl

/-- Settings are confirmed exactly if the level is the same and so is the directory. -/
theorem confirm_eq_ok_iff {active requested : LogSettings} :
    active.confirm requested = .ok () ↔ requested.level = active.level ∧
      requested.directory.components = active.directory.components := by
  rw [confirm_eq]
  by_cases directory : requested.directory.components = active.directory.components <;>
    by_cases level : requested.level = active.level <;> simp [directory, level]

section Request

variable {ω : Type} {level directory : String}
  {start : LogSettings → ω → Except LogFailure Unit × ω}

/-- A request that is not well formed fails for that and does nothing. -/
theorem request_of_error {failure : LogFailure}
    (malformed : ofRequest level directory = .error failure) (active : Option LogSettings)
    (outside : ω) :
    request active level directory start outside = ⟨.error failure, active, outside⟩ := by
  unfold request
  rw [malformed]

/-- While no log is active, a well-formed request comes to what an attempt to start one comes to. -/
theorem request_none {settings : LogSettings} (asked : settings.AskedBy level directory)
    (outside : ω) :
    request none level directory start outside =
      ⟨(start settings outside).1,
        if (start settings outside).1.isOk = true then some settings else none,
        (start settings outside).2⟩ := by
  unfold request
  rw [asked.ofRequest_eq]
  dsimp only
  cases start settings outside with
  | mk result after => cases result <;> rfl

/-- Once a log is active, a well-formed request is compared with it. -/
theorem request_some {requested : LogSettings} (asked : requested.AskedBy level directory)
    (active : LogSettings) (outside : ω) :
    request (some active) level directory start outside =
      ⟨active.confirm requested, some active, outside⟩ := by
  unfold request
  rw [asked.ofRequest_eq]

/-- Once a log is active, no request changes that, and none does anything. -/
theorem request_active (active : LogSettings) (outside : ω) :
    let requested := request (some active) level directory start outside
    requested.active = some active ∧ requested.outside = outside := by
  dsimp only
  cases named : ofRequest level directory with
  | error failure =>
    rw [request_of_error named]
    exact ⟨rfl, rfl⟩
  | ok settings =>
    rw [request_some (ofRequest_eq_ok_iff.mp named)]
    exact ⟨rfl, rfl⟩

end Request

end LogSettings

/-! ## Calls -/

/-- A request for a log, with what comes of the attempt to start one if the request leads to it. -/
structure LogCall where
  /-- The level as requested. -/
  level : String
  /-- The directory as requested. -/
  directory : String
  /-- What comes of an attempt. -/
  attempt : Except LogFailure Unit

namespace LogCall

/-- Makes the request. The attempts to start a log that were made so far are the outside. -/
def perform (call : LogCall) (status : Option LogSettings) (tried : List LogSettings) :
    LogRequested (List LogSettings) :=
  LogSettings.request status call.level call.directory
    (fun settings tried => (call.attempt, tried ++ [settings])) tried

end LogCall

/-- What a list of calls leads to. -/
structure LogHistory where
  /-- The settings that are active, if a log is. -/
  status : Option LogSettings := none
  /-- The attempts that were made to start a log, in order. -/
  tried : List LogSettings := []
  /-- The calls in order, with what their callers were told. -/
  told : List (LogCall × Except LogFailure Unit) := []

namespace LogHistory

/-- The next call. -/
def perform (history : LogHistory) (call : LogCall) : LogRequested (List LogSettings) :=
  call.perform history.status history.tried

/-- The history after one more call. -/
def push (history : LogHistory) (call : LogCall) : LogHistory :=
  let performed := history.perform call
  ⟨performed.active, performed.outside, history.told ++ [(call, performed.result)]⟩

/-- The history of a list of calls. -/
def ofCalls (calls : List LogCall) : LogHistory := calls.foldl push {}

/-- A call that is not well formed fails for that and does nothing. -/
theorem perform_of_error (history : LogHistory) {call : LogCall} {failure : LogFailure}
    (malformed : LogSettings.ofRequest call.level call.directory = .error failure) :
    history.perform call = ⟨.error failure, history.status, history.tried⟩ := by
  unfold perform LogCall.perform
  exact LogSettings.request_of_error malformed history.status history.tried

/-- While no log is active, a well-formed call comes to what the attempt comes to. -/
theorem perform_none {history : LogHistory} (inactive : history.status = none) {call : LogCall}
    {settings : LogSettings} (asked : settings.AskedBy call.level call.directory) :
    history.perform call = ⟨call.attempt, if call.attempt.isOk = true then some settings else none,
      history.tried ++ [settings]⟩ := by
  unfold perform
  rw [inactive]
  exact LogSettings.request_none asked history.tried

/-- Once a log is active, a well-formed call is compared with it. -/
theorem perform_some {history : LogHistory} {settings : LogSettings}
    (active : history.status = some settings) {call : LogCall} {requested : LogSettings}
    (asked : requested.AskedBy call.level call.directory) :
    history.perform call = ⟨settings.confirm requested, some settings, history.tried⟩ := by
  unfold perform
  rw [active]
  exact LogSettings.request_some asked settings history.tried

/-- While no log is active, a call that asks for nothing does nothing, and one that asks for
settings comes to what the attempt to start them comes to. -/
theorem perform_of_inactive {history : LogHistory} (inactive : history.status = none)
    (call : LogCall) :
    let performed := history.perform call
    ((∀ settings : LogSettings, ¬ settings.AskedBy call.level call.directory) →
      performed.active = none ∧ performed.outside = history.tried) ∧
    (∀ settings : LogSettings, settings.AskedBy call.level call.directory →
      performed.result = call.attempt ∧ performed.outside = history.tried ++ [settings] ∧
      performed.active = if call.attempt.isOk = true then some settings else none) := by
  refine ⟨fun malformed => ?_, fun settings asked => ?_⟩
  · cases named : LogSettings.ofRequest call.level call.directory with
    | error failure =>
      rw [history.perform_of_error named]
      exact ⟨inactive, rfl⟩
    | ok settings => exact absurd (LogSettings.ofRequest_eq_ok_iff.mp named) (malformed settings)
  · rw [perform_none inactive asked]
    exact ⟨rfl, rfl, rfl⟩

/-- Once a log is active, a call leaves it, makes no attempt, and succeeds exactly if it asks for
the same level and the same directory. -/
theorem perform_of_active {history : LogHistory} {settings : LogSettings}
    (active : history.status = some settings) (call : LogCall) :
    let performed := history.perform call
    performed.active = some settings ∧ performed.outside = history.tried ∧
      (performed.result = .ok () ↔ ∃ requested : LogSettings,
        requested.AskedBy call.level call.directory ∧ requested.level = settings.level ∧
        requested.directory.components = settings.directory.components) := by
  cases named : LogSettings.ofRequest call.level call.directory with
  | error failure =>
    rw [history.perform_of_error named]
    refine ⟨active, rfl, fun ok => ?_, fun ⟨requested, asked, _⟩ => ?_⟩
    · cases ok
    · rw [asked.ofRequest_eq] at named
      cases named
  | ok requested =>
    have asked := LogSettings.ofRequest_eq_ok_iff.mp named
    rw [perform_some active asked]
    refine ⟨rfl, rfl, fun ok => ⟨requested, asked, LogSettings.confirm_eq_ok_iff.mp ok⟩, ?_⟩
    rintro ⟨other, same, agrees⟩
    obtain rfl : requested = other := Except.ok.inj (named.symm.trans same.ofRequest_eq)
    exact LogSettings.confirm_eq_ok_iff.mpr agrees

/-- A call that names no level is refused for that. -/
theorem perform_of_unnamed (history : LogHistory) {call : LogCall}
    (unnamed : ∀ level : Level, ¬ level.IsNamed ((Text.trimmed call.level).map Char.toLower)) :
    (history.perform call).result =
      .error (.unsupportedLevel ((Text.trimmed call.level).map Char.toLower)) := by
  rw [history.perform_of_error (LogSettings.ofRequest_of_unnamed call.directory unnamed)]

/-- A call that names a level is refused for its directory, and after that for a difference to the
active log, in the directory first. -/
theorem perform_of_named (history : LogHistory) {call : LogCall} {level : Level}
    (names : level.IsNamed ((Text.trimmed call.level).map Char.toLower)) :
    let result := (history.perform call).result
    let directory : Path := ⟨Text.trimmed call.directory⟩
    (directory.text = "" → result = .error .emptyDirectory) ∧
    (directory.text ≠ "" → directory.isAbsolute = false →
      result = .error (.relativeDirectory directory)) ∧
    (directory.isAbsolute = true → ∀ settings, history.status = some settings →
      (directory.components ≠ settings.directory.components →
        result = .error (.otherDirectory settings.directory directory)) ∧
      (directory.components = settings.directory.components → level ≠ settings.level →
        result = .error (.otherLevel settings.level level))) := by
  refine ⟨fun empty => ?_, fun some relative => ?_, fun absolute settings active => ?_⟩
  · rw [history.perform_of_error (LogSettings.ofRequest_of_empty names empty)]
  · rw [history.perform_of_error (LogSettings.ofRequest_of_relative names some relative)]
  · have asked : LogSettings.AskedBy ⟨level, ⟨Text.trimmed call.directory⟩⟩ call.level
        call.directory := ⟨names, rfl, absolute⟩
    rw [perform_some active asked, LogSettings.confirm_eq]
    dsimp only
    refine ⟨fun other => ?_, fun same other => ?_⟩
    · rw [if_neg other]
    · rw [if_pos same, if_neg other]

/-! ## Runs -/

/-- One more call comes after the others. -/
theorem ofCalls_append (calls : List LogCall) (call : LogCall) :
    ofCalls (calls ++ [call]) = (ofCalls calls).push call := List.foldl_concat ..

/-- The calls of a history are those that were made. -/
theorem map_told_ofCalls (calls : List LogCall) : (ofCalls calls).told.map Prod.fst = calls := by
  induction calls using List.reverseRecOn with
  | nil => rfl
  | append_singleton calls call hyp =>
    rw [ofCalls_append, push, List.map_append, hyp]
    rfl

/-- The first call that succeeded decides: no log is active if there is none, and otherwise the one
is that this call asked for. -/
def Decided (history : LogHistory) : Prop :=
  match history.told.find? fun told => told.2.isOk with
  | none => history.status = none
  | some (first, _) => ∃ settings : LogSettings, settings.AskedBy first.level first.directory ∧
    history.status = some settings

/-- While no log is active, a call makes one active exactly if it succeeds. -/
theorem active_perform_none {history : LogHistory} (inactive : history.status = none)
    (call : LogCall) :
    let performed := history.perform call
    if performed.result.isOk = true then
      ∃ settings : LogSettings, settings.AskedBy call.level call.directory ∧
        performed.active = some settings
    else performed.active = none := by
  cases named : LogSettings.ofRequest call.level call.directory with
  | error failure =>
    rw [history.perform_of_error named]
    exact inactive
  | ok settings =>
    have asked := LogSettings.ofRequest_eq_ok_iff.mp named
    rw [perform_none inactive asked]
    dsimp only
    split
    · exact ⟨settings, asked, rfl⟩
    · rfl

/-- One more call leaves it to the first success to decide. -/
theorem Decided.push {history : LogHistory} (decided : history.Decided) (call : LogCall) :
    (history.push call).Decided := by
  unfold Decided LogHistory.push at *
  dsimp only
  rw [List.find?_append]
  cases found : history.told.find? fun told => told.2.isOk with
  | some first =>
    rw [found] at decided
    obtain ⟨settings, asked, active⟩ := decided
    exact ⟨settings, asked, (perform_of_active active call).1⟩
  | none =>
    rw [found] at decided
    have step := active_perform_none decided call
    dsimp only at step
    cases succeeded : (history.perform call).result.isOk with
    | true =>
      rw [if_pos succeeded] at step
      rw [List.find?_singleton, Option.none_or, if_pos succeeded]
      exact step
    | false =>
      rw [if_neg (ne_true_of_eq_false succeeded)] at step
      rw [List.find?_singleton, Option.none_or, if_neg (ne_true_of_eq_false succeeded)]
      exact step

/-- In every history the first success has decided. -/
theorem decided_ofCalls (calls : List LogCall) : (ofCalls calls).Decided := by
  induction calls using List.reverseRecOn with
  | nil => rfl
  | append_singleton calls call hyp =>
    rw [ofCalls_append]
    exact hyp.push call

end LogHistory

/-! ## Programs -/

namespace LoggingProgram

/-- Writing to the log leaves its settings. -/
theorem active_record (program : LoggingProgram) (diagnostic : Diagnostic) :
    (program.record diagnostic).active = program.active := by
  unfold record writeLine
  split
  · rfl
  · split
    · dsimp only
      split <;> rfl
    · rfl

/-- What a request of a program tells its caller, and which log is active afterwards, is decided by
the request alone, whatever is written to the log. -/
theorem request_eq (program : LoggingProgram) (level directory : String) :
    let requested := LogSettings.request program.active level directory start program
    (program.request level directory).1 = requested.result ∧
      (program.request level directory).2.active = requested.active := by
  unfold request
  dsimp only
  split
  · next settings _ started => exact ⟨rfl, (active_record _ _).trans rfl⟩
  · exact ⟨rfl, rfl⟩

/-- A request of a program is a call: its caller is told the same, and the same log is active
afterwards. -/
theorem exists_call (program : LoggingProgram) (level directory : String) :
    ∃ attempt, let call : LogCall := ⟨level, directory, attempt⟩
      (program.request level directory).1 = (call.perform program.active []).result ∧
      (program.request level directory).2.active = (call.perform program.active []).active := by
  obtain ⟨told, active⟩ := program.request_eq level directory
  dsimp only
  rw [told, active]
  unfold LogCall.perform
  cases named : LogSettings.ofRequest level directory with
  | error failure =>
    refine ⟨.ok (), ?_⟩
    rw [LogSettings.request_of_error named, LogSettings.request_of_error named]
    exact ⟨rfl, rfl⟩
  | ok settings =>
    refine ⟨(start settings program).1, ?_⟩
    have asked := LogSettings.ofRequest_eq_ok_iff.mp named
    cases program.active with
    | some active =>
      rw [LogSettings.request_some asked, LogSettings.request_some asked]
      exact ⟨rfl, rfl⟩
    | none =>
      rw [LogSettings.request_none asked, LogSettings.request_none asked]
      exact ⟨rfl, rfl⟩

/-- Once a log is active, a request changes nothing of the program. -/
theorem request_of_active {program : LoggingProgram} {settings : LogSettings}
    (active : program.active = some settings) (level directory : String) :
    (program.request level directory).2 = program := by
  obtain ⟨still, outside⟩ : _ ∧ (LogSettings.request (some settings) level directory start
    program).outside = program := LogSettings.request_active settings program
  unfold request
  rw [active]
  dsimp only
  rw [outside, still, ← active]

end LoggingProgram

/-- Over any calls, the first one that succeeds decides on the log. Until then none is active, and a
well-formed call makes an attempt and comes to what that comes to; from then on the log is the one
that this call asked for, no attempt is made, and a call succeeds exactly if it asks for the same
level and for the same directory, component by component. A call is refused for its level first, for
its directory next, for a difference in the directory after that, and for one in the level last.

What a call asks for is trimmed of white space and nothing else, and absolute paths have the same
components exactly if they differ in repeated and last slashes and single dots alone. The requests
of a program are such calls, and leave the program as it is once a log is active. -/
theorem first_success_decides (calls : List LogCall) (next : LogCall) :
    let history := LogHistory.ofCalls calls
    let performed := history.perform next
    let name := (Text.trimmed next.level).map Char.toLower
    let directory : Path := ⟨Text.trimmed next.directory⟩
    (history.told.map Prod.fst = calls ∧ history.Decided) ∧
    (history.status = none →
      ((∀ settings : LogSettings, ¬ settings.AskedBy next.level next.directory) →
        performed.active = none ∧ performed.outside = history.tried) ∧
      (∀ settings : LogSettings, settings.AskedBy next.level next.directory →
        performed.result = next.attempt ∧ performed.outside = history.tried ++ [settings] ∧
        performed.active = if next.attempt.isOk = true then some settings else none)) ∧
    (∀ settings, history.status = some settings →
      performed.active = some settings ∧ performed.outside = history.tried ∧
      (performed.result = .ok () ↔ ∃ requested : LogSettings,
        requested.AskedBy next.level next.directory ∧ requested.level = settings.level ∧
        requested.directory.components = settings.directory.components)) ∧
    ((∀ level : Level, ¬ level.IsNamed name) →
      performed.result = .error (.unsupportedLevel name)) ∧
    (∀ level : Level, level.IsNamed name →
      (directory.text = "" → performed.result = .error .emptyDirectory) ∧
      (directory.text ≠ "" → directory.isAbsolute = false →
        performed.result = .error (.relativeDirectory directory)) ∧
      (directory.isAbsolute = true → ∀ settings, history.status = some settings →
        (directory.components ≠ settings.directory.components →
          performed.result = .error (.otherDirectory settings.directory directory)) ∧
        (directory.components = settings.directory.components → level ≠ settings.level →
          performed.result = .error (.otherLevel settings.level level)))) ∧
    (Text.Trims next.level (Text.trimmed next.level) ∧
      Text.Trims next.directory directory.text) ∧
    (∀ left right : Path, left.isAbsolute = true → right.isAbsolute = true →
      (left.components = right.components ↔
        Relation.EqvGen Respelled left.text.toList right.text.toList)) ∧
    (∀ program : LoggingProgram,
      (∃ attempt, let call : LogCall := ⟨next.level, next.directory, attempt⟩
        (program.request next.level next.directory).1 =
          (call.perform program.active []).result ∧
        (program.request next.level next.directory).2.active =
          (call.perform program.active []).active) ∧
      (program.active.isSome = true →
        (program.request next.level next.directory).2 = program)) := by
  refine ⟨⟨LogHistory.map_told_ofCalls calls, LogHistory.decided_ofCalls calls⟩,
    fun inactive => LogHistory.perform_of_inactive inactive next,
    fun settings active => LogHistory.perform_of_active active next,
    fun unnamed => LogHistory.perform_of_unnamed _ unnamed,
    fun level names => LogHistory.perform_of_named _ names,
    ⟨Text.trims_trimmed _, Text.trims_trimmed _⟩,
    fun left right => Path.components_eq_iff_respelled,
    fun program => ⟨program.exists_call next.level next.directory, fun some => ?_⟩⟩
  obtain ⟨settings, active⟩ := Option.isSome_iff_exists.mp some
  exact LoggingProgram.request_of_active active next.level next.directory

end ImageConfig
