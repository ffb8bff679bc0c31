import KeyedBreakers.Command.Run

/-!
# The program

Reads what the command may see, runs it, and prints its output.
-/

namespace KeyedBreakers.Command

/-- What stands at a path. -/
def readPath (path : String) : IO FileContent := do
  try
    return .bytes (← IO.FS.readBinFile path)
  catch
    | .noFileOrDirectory .. => return .missing
    | _ => return .directory

/-- What the command can see when it is given these arguments. -/
def observe (arguments : List String) : IO Environment := do
  let logFilter ← IO.getEnv "RUST_LOG"
  let content ← match Arguments.parse arguments with
    | .ok { config := some path, .. } => readPath path
    | _ => pure .missing
  return { logFilter, file := fun _ => content }

/-- Prints an output. -/
def Output.print (output : Output) : IO Unit := do
  for printed in output.printed do
    match printed with
    | .result text | .logged text => IO.println text
  for error in output.errors do
    IO.eprintln error

end KeyedBreakers.Command

open KeyedBreakers in
/-- Runs the command with the given arguments. -/
def main (arguments : List String) : IO UInt32 := do
  let output := Command.run (← Command.observe arguments) arguments
  Command.Output.print output
  return output.exitCode.toUInt32
