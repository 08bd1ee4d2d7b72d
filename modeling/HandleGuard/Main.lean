import HandleGuard.CommandLine.Run

/-!
# The program

Reads the arguments, the environment and the trace file, and prints what the run came to.
-/

namespace HandleGuard.CommandLine

/-- What went wrong when a file was read. -/
def readErrorOf : IO.Error → ReadError
  | .noFileOrDirectory .. => .notFound
  | .permissionDenied .. => .permissionDenied
  | .invalidArgument .. => .nameTooLong
  | .inappropriateType _ code _ =>
    if code.toNat = ReadError.isDirectory.code then .isDirectory else .notDirectory
  | e => ⟨toString e, 5⟩

/-- Reads a file from the disk. -/
def readFile (path : String) : IO (Except ReadError ByteArray) := do
  try
    return .ok (← IO.FS.readBinFile path)
  catch e =>
    return .error (readErrorOf e)

/-- The variables of the environment that are set. -/
def environment : IO Environment := do
  let names := [Config.singletonVariable, Config.closedQueueMaxVariable, Config.onInvalidVariable,
    Config.diagMaxVariable]
  let settings ← names.filterMapM fun name => do
    return (← IO.getEnv name).map fun value => (name, value.toUTF8)
  return ⟨settings⟩

end HandleGuard.CommandLine

open HandleGuard.CommandLine

/-- Runs the program. -/
def main (args : List String) : IO UInt32 := do
  let outcome ← match Command.parse args with
    | .error e => pure e.outcome
    | .ok command =>
      let file ← match command.tracePath? with
        | some path => readFile path
        | none => pure (.error .notFound)
      pure (command.run (← environment) fun _ => file)
  IO.print outcome.output
  IO.eprint outcome.errors
  return outcome.exitCode.toUInt32
