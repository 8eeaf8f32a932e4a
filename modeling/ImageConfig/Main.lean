import ImageConfig.CommandLine

/-!
# Entry point
-/

/-- Prints the output of the command. -/
def main : IO Unit := IO.print ImageConfig.commandOutput
