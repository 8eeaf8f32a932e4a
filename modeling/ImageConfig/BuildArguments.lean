import ImageConfig.Timing

/-!
# Build arguments

The image builder reads its arguments from a properties file: the arguments that every image
needs, and for each phase with entries one further option that lists them. A backslash at the end
of a line continues the arguments on the next one. `render` gives the whole text.
-/

namespace ImageConfig.BuildArguments

/-- The first line: arguments that every image needs. -/
def requiredArgs : String :=
  "Args = --allow-incomplete-classpath --report-unsupported-elements-at-runtime --no-fallback " ++
    "--no-server --install-exit-handlers -H:+InlineBeforeAnalysis"

/-- What stands between one line of arguments and the next. -/
def continuation : String := " \\\n"

/-- The option that lists the entries of a phase. -/
def option : Phase → String
  | .buildTime => "--initialize-at-build-time="
  | .runTime => "--initialize-at-run-time="

/-- The names with a comma between each two. -/
def commaJoined (names : List String) : String := String.intercalate "," names

/-- The line of one phase with the continuation before it; nothing for a phase with no entries. -/
def phaseText (timing : Timing) (phase : Phase) : String :=
  if timing.hasEntries phase then continuation ++ option phase ++ commaJoined (timing.entries phase)
  else ""

/-- The text of the properties file for a timing. -/
def render (timing : Timing) : String :=
  requiredArgs ++ phaseText timing .buildTime ++ phaseText timing .runTime ++ "\n"

/-- A timing without entries renders the required arguments alone. -/
theorem render_empty : render ∅ = requiredArgs ++ "\n" := by
  have build : phaseText ∅ .buildTime = "" := rfl
  have run : phaseText ∅ .runTime = "" := rfl
  rw [render, build, run, String.append_empty, String.append_empty]

end ImageConfig.BuildArguments
