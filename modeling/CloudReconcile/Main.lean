import CloudReconcile.CommandLine

/-!
# The program

Reads the variables, runs the command line and writes what it says.
-/

def main (args : List String) : IO UInt32 := do
  let values ← CloudReconcile.CommandLine.variableNames.mapM fun name => do
    return (name, ← IO.getEnv name)
  let run := CloudReconcile.CommandLine.run args fun name => (values.lookup name).join
  for (level, line) in run.log do
    IO.println (level.text ++ " " ++ line)
  IO.print run.printed
  IO.eprint run.errors
  return run.code.toUInt32
