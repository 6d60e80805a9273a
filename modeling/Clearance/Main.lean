import Clearance.CommandLine

/-
  The command line as a program.
-/

/- Print what the arguments ask for, and exit. -/
def main (arguments : List String) : IO UInt32 := do
  let output := Clearance.CommandLine.run arguments
  (← IO.getStdout).putStr output.out
  (← IO.getStderr).putStr output.err
  return output.status.toUInt32
