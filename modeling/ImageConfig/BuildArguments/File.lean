import ImageConfig.BuildArguments
import ImageConfig.Diagnostic
import ImageConfig.File.Tree

/-!
# Writing build arguments

The rendered arguments are written over any file at the given path. Whether that succeeds is told
to the caller and recorded in one diagnostic.
-/

namespace ImageConfig

/-- The arguments could not be written. -/
structure WriteFailure where
  /-- The path as given. -/
  path : Path
  /-- Why it cannot be written. -/
  cause : FileError
deriving DecidableEq

/-- The failure as callers are told. -/
def WriteFailure.message (failure : WriteFailure) : String :=
  "failed to write native-image properties `" ++ failure.path.text ++ "`: " ++
    failure.cause.message

/-- What an attempt to write leaves. -/
structure Written where
  /-- The text now in the file, or why there is none. -/
  result : Except WriteFailure String
  /-- The diagnostic. -/
  diagnostic : Diagnostic
  /-- The files afterwards. -/
  tree : FileTree

/-- Writes the build arguments of a timing. -/
def BuildArguments.write (timing : Timing) (path : Path) (tree : FileTree) : Written :=
  let text := render timing
  match tree.writeFile path text with
  | .ok written => ⟨.ok text, .argumentsWritten path text.utf8ByteSize, written⟩
  | .error cause => ⟨.error ⟨path, cause⟩, .argumentsFailed path cause, tree⟩

end ImageConfig
