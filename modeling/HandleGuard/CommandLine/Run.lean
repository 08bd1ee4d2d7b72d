import HandleGuard.CommandLine.Command
import HandleGuard.CommandLine.Directory
import HandleGuard.Config.Environment
import HandleGuard.Replay

/-!
# Running commands

A run ends with an exit code and what it prints. The code is zero when all is well, one when a
replay found a failed check or a leak, and two when the command could not be carried out.

* `Command.run`: a command, given its trace file
* `run`: arguments and all, in a directory
-/

namespace HandleGuard.CommandLine

/-- How a run ended. -/
structure Outcome where
  exitCode : UInt8
  output : String
  errors : String
deriving DecidableEq, Repr

namespace Outcome

/-- A run that printed `output`. -/
def printed (output : String) : Outcome := ⟨0, output, ""⟩

/-- A run that could not be carried out. -/
def failed (message : String) : Outcome := ⟨2, "", message ++ "\n"⟩

end Outcome

/-- The name and the version of the program. -/
def versionText : String := "hdebug 0.1.0\n"

/-- How the program is used. -/
def usage : String :=
  "usage: hdebug replay --trace <TRACE> [--closed-queue-max <N>] [--per-context]\n" ++
    "       hdebug diagnostics [--json]\n" ++
    "       hdebug --help | --version\n"

/-- The outcome when reading arguments ends early. -/
def EarlyEnd.outcome : EarlyEnd → Outcome
  | help => .printed usage
  | version => .printed versionText
  | error e => ⟨2, "", "error: " ++ e.message ++ "\n" ++ usage⟩

/-- The written form of a code in the catalogue. -/
def catalogueEntry (c : DiagnosticCode) : Json :=
  .object
    ([("code", .text c.short), ("severity", c.severity.toJson), ("message", .text c.summary)] ++
      Json.optional "help" (c.help?.map Json.text))

/-- The written form of the catalogue. -/
def catalogue : Json :=
  .object [("schema_version", .text Schema.diagnostics),
    ("codes", .array (DiagnosticCode.all.map catalogueEntry))]

/-- Replays the trace in a file that was read as `file`. -/
def runReplay (o : ReplayOptions) (env : Environment) (file : Except ReadError ByteArray) :
    Outcome :=
  match file with
  | .error e => .failed ("read trace: " ++ o.trace ++ ": " ++ e.message)
  | .ok bytes =>
    match Trace.parse bytes with
    | .error e => .failed ("load trace: " ++ o.trace ++ ": " ++ e.message)
    | .ok trace =>
      match replay trace (o.configure (Config.ofEnvironment env).1) with
      | .error e => .failed e.message
      | .ok report => ⟨if report.ok then 0 else 1, report.toJson.pretty ++ "\n", ""⟩

/-- Carries out a command. `read` reads a file. -/
def Command.run (env : Environment) (read : String → Except ReadError ByteArray) :
    Command → Outcome
  | replay o => runReplay o env (read o.trace)
  | diagnostics true => .printed (catalogue.pretty ++ "\n")
  | diagnostics false => .printed Diagnostic.catalogue

/-- Runs the program with `args` in a directory. -/
def run (args : List String) (env : Environment) (directory : Directory) : Outcome :=
  match Command.parse args with
  | .error e => e.outcome
  | .ok command => command.run env directory.read

end HandleGuard.CommandLine
