import ImageConfig.ClassEntry
import ImageConfig.EngineError
import ImageConfig.File.Error
import ImageConfig.File.Path
import ImageConfig.Level
import ImageConfig.Timing
import ImageConfig.Version

/-!
# Diagnostics

A diagnostic records one occurrence that a maintainer may want to know of. Its level and its text
follow from what has occurred (`Diagnostic.level`, `Diagnostic.text`). Those of failed
verifications are told apart from all others (`Diagnostic.isVerification`), because they are
written only where they are wished for.
-/

namespace ImageConfig

/-- A check that begins with the lookup of a type. -/
inductive Check where
  /-- The check of the type itself. -/
  | type
  /-- The check of its members. -/
  | members
deriving DecidableEq

/-- The check as diagnostics name it. -/
def Check.name : Check → String
  | type => "verify_type"
  | members => "verify_members"

/-- Something worth a line in a log. -/
inductive Diagnostic where
  /-- A session begins. -/
  | sessionOpened (debugVerify : Bool)
  /-- The type that is to be checked is missing. -/
  | missingType (check : Check) (name : String)
  /-- A type does not verify. -/
  | invalidType (name : String)
  /-- The members that an entry names do not verify. -/
  | invalidMembers (entry : ClassEntry)
  /-- A name does not meet the condition on all of its list. -/
  | failedCondition (name : String) (found : Bool)
  /-- A name is requested for a phase while the other phase holds it. -/
  | phaseConflict (phase : Phase) (target : Target) (name : String)
  /-- The build engine failed on a notification. -/
  | forwardFailure (operation : String) (error : EngineError)
  /-- Build arguments of so many bytes were written. -/
  | argumentsWritten (path : Path) (size : Nat)
  /-- Build arguments could not be written. -/
  | argumentsFailed (path : Path) (cause : FileError)
  /-- A log begins. -/
  | logOpened (level : Level) (directory : Path)
deriving DecidableEq

namespace Diagnostic

/-- The word for a truth value. -/
def word (value : Bool) : String := if value then "true" else "false"

/-- How severe the occurrence is. -/
def level : Diagnostic → Level
  | sessionOpened _ | missingType _ _ | invalidType _ | invalidMembers _ | failedCondition _ _ =>
    .debug
  | argumentsWritten _ _ | logOpened _ _ => .info
  | phaseConflict _ _ _ | forwardFailure _ _ => .warn
  | argumentsFailed _ _ => .error

/-- The line in a log, without level or time. -/
def text : Diagnostic → String
  | sessionOpened debugVerify =>
    "event=collector_init module=collector status=ok debug_verify=" ++ word debugVerify
  | missingType check name =>
    "event=" ++ check.name ++ " module=verify status=missing type=" ++ name
  | invalidType name => "event=verify_type module=verify status=invalid type=" ++ name
  | invalidMembers entry =>
    "event=verify_members module=verify status=invalid type=" ++ entry.name ++
      " methods=" ++ toString entry.methods.length ++ " fields=" ++ toString entry.fields.length
  | failedCondition name found =>
    "event=check_types module=verify status=rejected type=" ++ name ++ " resolved=" ++ word found
  | phaseConflict phase target name =>
    "event=init_conflict module=collector status=allowed " ++ target.name ++ "=" ++ name ++
      " phase=" ++ phase.name
  | forwardFailure operation error =>
    "event=connector_forward module=connector status=error operation=" ++ operation ++
      " error=" ++ error.message
  | argumentsWritten path size =>
    "event=properties_write module=properties status=ok path=" ++ path.text ++
      " bytes=" ++ toString size
  | argumentsFailed path cause =>
    "event=properties_write module=properties status=error path=" ++ path.text ++
      " error=" ++ cause.message
  | logOpened level directory =>
    "event=logging_init module=logging status=ok level=" ++ level.name ++
      " log_dir=" ++ directory.text ++ " version=" ++ version

/-- Whether the occurrence is the failure of a verification. -/
def isVerification : Diagnostic → Bool
  | missingType _ _ | invalidType _ | invalidMembers _ | failedCondition _ _ => true
  | _ => false

end Diagnostic

end ImageConfig
