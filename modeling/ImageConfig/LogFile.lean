import ImageConfig.Diagnostic
import ImageConfig.File.Buffer
import ImageConfig.File.Tree
import ImageConfig.Text.Trimmed

/-!
# Logging to a file

A program starts to log at most once. A request names a level and a directory; the first request
that succeeds fixes both (`LogSettings.request`). Later requests for the same level and directory
succeed and change nothing, all others are refused. A request that fails before a log is active
leaves it to later ones to start it. Of several reasons to refuse a request the level comes first,
then the directory, then a difference in the directory, then one in the level.

A log is active from the request on, but its file is opened for the first line that is written
(`LoggingProgram.record`). A file that cannot be opened costs the line and nothing else. The file
keeps the text it had. Lines pass through a buffer, so a text that is written over the file in the
meantime replaces the lines that have reached the file, and stands before those that have not.

Another log may have taken the place, so that no log can be started. It receives the diagnostics of
the program from the level on that the last attempt to start a log had set before it was refused
(`LoggingProgram.reachesOther`); before such an attempt it receives none.
-/

namespace ImageConfig

/-- The level and directory of a log. -/
structure LogSettings where
  /-- The level. -/
  level : Level
  /-- The directory as requested, without white space around it. -/
  directory : Path
deriving DecidableEq

/-- Why a request for a log is refused. -/
inductive LogFailure where
  /-- There is no such level. -/
  | unsupportedLevel (level : String)
  /-- The directory is blank. -/
  | emptyDirectory
  /-- The directory does not begin at the root. -/
  | relativeDirectory (directory : Path)
  /-- The directory cannot be made. -/
  | noDirectory (directory : Path) (cause : FileError)
  /-- The log itself does not start. -/
  | noBackend (cause : String)
  /-- A log is active in another directory. -/
  | otherDirectory (active requested : Path)
  /-- A log is active at another level. -/
  | otherLevel (active requested : Level)
deriving DecidableEq

/-- The file in which a log is kept. -/
def LogSettings.file (settings : LogSettings) : Path :=
  settings.directory.entry "nativeconf_rCURRENT.log"

namespace LogFailure

/-- The failure as callers are told. -/
def message : LogFailure → String
  | unsupportedLevel level =>
    "unsupported log level `" ++ level ++ "`; expected trace|debug|info|warn|error"
  | emptyDirectory => "log_dir cannot be empty"
  | relativeDirectory directory =>
    "log_dir must be an absolute path, got `" ++ directory.text ++ "`"
  | noDirectory directory cause =>
    "failed to create log directory `" ++ directory.text ++ "`: " ++ cause.message
  | noBackend cause => "failed to start logger: " ++ cause
  | otherDirectory active requested =>
    "logging already initialized at `" ++ active.text ++ "`; refusing to switch to `" ++
      requested.text ++ "`"
  | otherLevel active requested =>
    "logging already initialized with level `" ++ active.name ++ "`; refusing to switch to `" ++
      requested.name ++ "`"

end LogFailure

/-- What a request for a log leaves; a state of type `ω` is all that starting a log may change. -/
structure LogRequested (ω : Type) where
  /-- What the caller is told. -/
  result : Except LogFailure Unit
  /-- The settings that are active afterwards, if a log is. -/
  active : Option LogSettings
  /-- The outside afterwards. -/
  outside : ω

namespace LogSettings

/-- The level that a request names. Letters of ASCII may be capital. -/
def levelOfRequest (level : String) : Except LogFailure Level :=
  let name := (Text.trimmed level).map Char.toLower
  match Level.ofName? name with
  | some level => return level
  | none => throw (.unsupportedLevel name)

/-- The directory that a request names. -/
def directoryOfRequest (directory : String) : Except LogFailure Path :=
  let path : Path := ⟨Text.trimmed directory⟩
  if path.text.isEmpty then throw .emptyDirectory
  else if path.isAbsolute then return path
  else throw (.relativeDirectory path)

/-- The settings that a request names. -/
def ofRequest (level directory : String) : Except LogFailure LogSettings := do
  let level ← levelOfRequest level
  let directory ← directoryOfRequest directory
  return ⟨level, directory⟩

/-- Whether active settings are those requested. -/
def confirm (active requested : LogSettings) : Except LogFailure Unit :=
  if !active.directory.same requested.directory then
    throw (.otherDirectory active.directory requested.directory)
  else if active.level ≠ requested.level then throw (.otherLevel active.level requested.level)
  else return ()

/-- One request. A log is only started, by `start`, if none is active; otherwise nothing is done to
the outside. -/
def request {ω : Type} (active : Option LogSettings) (level directory : String)
    (start : LogSettings → ω → Except LogFailure Unit × ω) (outside : ω) : LogRequested ω :=
  match ofRequest level directory with
  | .error failure => ⟨.error failure, active, outside⟩
  | .ok requested =>
    match active with
    | some settings => ⟨settings.confirm requested, active, outside⟩
    | none =>
      match start requested outside with
      | (.error failure, outside) => ⟨.error failure, none, outside⟩
      | (.ok _, outside) => ⟨.ok (), some requested, outside⟩

end LogSettings

/-- What the head of a line tells besides the level. -/
structure LineHead where
  /-- The time. -/
  time : String
  /-- The part of the program. -/
  area : String
  /-- The place in that part. -/
  place : String

/-- A diagnostic as a line of a log. -/
def Diagnostic.line (diagnostic : Diagnostic) (head : LineHead) : String :=
  "[" ++ head.time ++ "] " ++ diagnostic.level.heading ++ " [" ++ head.area ++ "] " ++ head.place ++
    ": " ++ diagnostic.text ++ "\n"

/-- A program that may log to a file. -/
structure LoggingProgram where
  /-- The head of lines; time and place stand still here. -/
  head : LineHead
  /-- Directories and files. -/
  tree : FileTree := {}
  /-- Whether another log has taken the place already, so that none can be started. -/
  isTaken : Bool := false
  /-- The level that the last attempt to start a log set, refused or not. -/
  threshold : Option Level := none
  /-- The settings of the active log, once there is one. -/
  active : Option LogSettings := none
  /-- Lines that the file of the log does not have yet. -/
  buffer : FileBuffer := {}

namespace LoggingProgram

/-- Tries to start a log: its directory is made, its level is set, and then it has to be the first
log. -/
def start (settings : LogSettings) (program : LoggingProgram) :
    Except LogFailure Unit × LoggingProgram :=
  match program.tree.makeDirectories settings.directory with
  | (.error cause, tree) =>
    (.error (.noDirectory settings.directory cause), { program with tree })
  | (.ok _, tree) =>
    (if program.isTaken then .error (.noBackend "Logger initialization failed") else .ok (),
      { program with tree, threshold := some settings.level })

/-- Writes a line to the file of a log. The first line opens the file; a line for which it cannot be
opened is lost. -/
def writeLine (program : LoggingProgram) (settings : LogSettings) (line : String) :
    LoggingProgram :=
  let ⟨sent, buffer⟩ := program.buffer.add line
  match program.tree.appendFile settings.file sent with
  | .ok tree => { program with tree, buffer }
  | .error _ => program

/-- Writes a diagnostic to the log, if one is active and its level keeps the diagnostic. -/
def record (program : LoggingProgram) (diagnostic : Diagnostic) : LoggingProgram :=
  match program.active with
  | none => program
  | some settings =>
    if settings.level.keeps diagnostic.level then
      program.writeLine settings (diagnostic.line program.head)
    else program

/-- Writes diagnostics to the log, in order. -/
def recordAll (program : LoggingProgram) (diagnostics : List Diagnostic) : LoggingProgram :=
  diagnostics.foldl record program

/-- Whether a diagnostic reaches the other log that has taken the place. -/
def reachesOther (program : LoggingProgram) (diagnostic : Diagnostic) : Bool :=
  program.isTaken && program.threshold.any fun level => level.keeps diagnostic.level

/-- The text of the file of the log once the program has ended and its last lines have reached the
file, if there is such a file. -/
def finalText? (program : LoggingProgram) : Option String := do
  let settings ← program.active
  let text ← program.tree.readFile? settings.file
  return text ++ program.buffer.held

/-- Makes one request for a log. A log that is started begins with a diagnostic of its own. -/
def request (program : LoggingProgram) (level directory : String) :
    Except LogFailure Unit × LoggingProgram :=
  let requested := LogSettings.request program.active level directory start program
  let next := { requested.outside with active := requested.active }
  match program.active, requested.active with
  | none, some settings =>
    (requested.result, next.record (.logOpened settings.level settings.directory))
  | _, _ => (requested.result, next)

end LoggingProgram

end ImageConfig
