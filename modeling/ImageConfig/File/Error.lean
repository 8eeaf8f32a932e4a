/-!
# File errors

The reasons for which writing a file or making a directory fails, with the texts and numbers of
the operating system.
-/

namespace ImageConfig

/-- Why a path cannot be used. -/
inductive FileError where
  /-- A directory on the way is missing. -/
  | notFound
  /-- There is something of that name. -/
  | exists
  /-- Something on the way is a file. -/
  | notDirectory
  /-- The path names a directory where a file is to be written. -/
  | isDirectory
  /-- The path or a part of it is too long. -/
  | nameTooLong
  /-- The path holds a null character. -/
  | nullCharacter
deriving DecidableEq

namespace FileError

/-- The error as the operating system tells it. -/
def message : FileError → String
  | notFound => "No such file or directory (os error 2)"
  | «exists» => "File exists (os error 17)"
  | notDirectory => "Not a directory (os error 20)"
  | isDirectory => "Is a directory (os error 21)"
  | nameTooLong => "File name too long (os error 36)"
  | nullCharacter => "file name contained an unexpected NUL byte"

end FileError

end ImageConfig
