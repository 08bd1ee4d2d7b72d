import HandleGuard.CommandLine.Arguments
import HandleGuard.Config
import HandleGuard.Text.Numeral

/-!
# Commands

There are two commands: `replay` replays a trace, and `diagnostics` prints the catalogue of
diagnostics. `Command.parse` reads a command with its options.
-/

namespace HandleGuard.CommandLine

/-- Which trace to replay, and what to change in the settings of the environment. -/
structure ReplayOptions where
  trace : String
  closedQueueMax : Option Nat
  perContext : Bool
deriving DecidableEq, Repr

/-- The settings with the changes made. -/
def ReplayOptions.configure (o : ReplayOptions) (c : Config) : Config :=
  { c with
    closedQueueMax := o.closedQueueMax.getD c.closedQueueMax
    bindPolicy := if o.perContext then .perContext else c.bindPolicy }

/-- What a run is asked to do. -/
inductive Command where
  | replay (o : ReplayOptions)
  /-- Prints the catalogue, as a JSON document or for reading. -/
  | diagnostics (json : Bool)
deriving DecidableEq, Repr

/-- The options of `replay` as far as they are given. -/
structure ReplayArguments where
  trace : Option String
  closedQueueMax : Option Nat
  perContext : Option Unit

namespace ReplayArguments

/-- The trace may have any name but the empty one. -/
def setTrace (value : String) (a : ReplayArguments) : Except ArgumentError ReplayArguments := do
  if value.isEmpty then .error (.missingValue "trace")
  return { a with trace := ← setOnce "trace" a.trace value }

/-- Every size is accepted for the closed queue, zero too. -/
def setClosedQueueMax (value : String) (a : ReplayArguments) :
    Except ArgumentError ReplayArguments :=
  match Numeral.size? value.toList with
  | none => .error (.badValue "closed-queue-max" value)
  | some n => do
    return { a with closedQueueMax := ← setOnce "closed-queue-max" a.closedQueueMax n }

/-- Asks for a debug context for each universal context. -/
def setPerContext (a : ReplayArguments) : Except ArgumentError ReplayArguments := do
  return { a with perContext := ← setOnce "per-context" a.perContext () }

/-- The options of `replay`. -/
def option? : String → Option (CommandOption ReplayArguments)
  | "trace" => some (.value setTrace)
  | "closed-queue-max" => some (.value setClosedQueueMax)
  | "per-context" => some (.flag setPerContext)
  | _ => none

/-- The finished options; a trace is needed. -/
def finish (a : ReplayArguments) : Except EarlyEnd ReplayOptions :=
  match a.trace with
  | none => .error (.error (.missingOption "trace"))
  | some trace => .ok ⟨trace, a.closedQueueMax, a.perContext.isSome⟩

end ReplayArguments

namespace Command

/-- The options of `diagnostics`. -/
def diagnosticsOption? : String → Option (CommandOption (Option Unit))
  | "json" => some (.flag fun old => setOnce "json" old ())
  | _ => none

/-- Asking for help about a command that there is, or about help. -/
def parseHelp : List String → EarlyEnd
  | [] | ["replay"] | ["diagnostics"] | ["help"] => .help
  | topics => .error (.unexpected (topics.getLastD ""))

/-- Reads a command with its options. Help and the version are asked for before any command. -/
def parse : List String → Except EarlyEnd Command
  | [] => .error (.error .missingCommand)
  | "replay" :: args => do
    return .replay (← (← readOptions ReplayArguments.option? args ⟨none, none, none⟩).finish)
  | "diagnostics" :: args => do
    return .diagnostics (← readOptions diagnosticsOption? args none).isSome
  | "help" :: topics => .error (parseHelp topics)
  | arg :: _ =>
    match Argument.ofString arg with
    | .long "help" none | .short ('h' :: _) => .error .help
    | .long "version" none | .short ('V' :: _) => .error .version
    | .terminator => .error (.error .missingCommand)
    | _ => .error (.error (.unexpected arg))

/-- The trace file that a command reads. -/
def tracePath? : Command → Option String
  | replay o => some o.trace
  | diagnostics _ => none

end Command

end HandleGuard.CommandLine
