import HandleGuard.Config
import HandleGuard.Text.Utf8

/-!
# Settings from the environment

Four environment variables set the configuration. A variable that is unset, or not UTF-8, keeps
its default. So does one whose value cannot be read, and those are listed as rejected, in reading
order and with the value as it stands.
-/

namespace HandleGuard

/-- The environment of a process: names and values as bytes. -/
structure Environment where
  settings : List (String × ByteArray)

/-- The value of a variable that is set and UTF-8. -/
def Environment.get? (env : Environment) (name : String) : Option String :=
  (env.settings.lookup name).bind Utf8.decode?

/-- A variable that was set to a value that cannot be read. -/
structure RejectedVariable where
  name : String
  value : String
deriving DecidableEq, Repr

namespace Config

/-- Whether a registry serves one universal context only. -/
def singletonVariable : String := "HDEBUG_SINGLETON"

/-- How many closed handles a context remembers. -/
def closedQueueMaxVariable : String := "HDEBUG_CLOSED_QUEUE_MAX"

/-- What a failed check does to the process. -/
def onInvalidVariable : String := "HDEBUG_ON_INVALID"

/-- How many diagnostics a context keeps. -/
def diagMaxVariable : String := "HDEBUG_DIAG_MAX"

/-- The bind policy that a yes-or-no value stands for: yes is the singleton policy. -/
def readBindPolicy (s : String) : Option BindPolicy :=
  let word := String.ofList (Text.trim s.toList)
  if word ∈ ["1", "true", "TRUE", "yes", "YES"] then some .singleton
  else if word ∈ ["0", "false", "FALSE", "no", "NO"] then some .perContext
  else none

/-- A size from 1 on, with blanks around it. -/
def readPositiveSize (s : String) : Option Nat :=
  (Numeral.size? (Text.trim s.toList)).filter (· ≠ 0)

/-- The policy that a value names. -/
def readInvalidPolicy (s : String) : Option InvalidPolicy :=
  (InvalidPolicy.parse s).toOption

/-- What a variable says, and whether it is rejected. -/
def readVariable {α : Type} (env : Environment) (name : String) (read : String → Option α) :
    Option α × List RejectedVariable :=
  match env.get? name with
  | none => (none, [])
  | some value =>
    match read value with
    | some a => (some a, [])
    | none => (none, [⟨name, value⟩])

/-- The settings under an environment, and the variables that were rejected. -/
def ofEnvironment (env : Environment) : Config × List RejectedVariable :=
  let (bindPolicy, rejected₁) := readVariable env singletonVariable readBindPolicy
  let (closedQueueMax, rejected₂) := readVariable env closedQueueMaxVariable readPositiveSize
  let (onInvalid, rejected₃) := readVariable env onInvalidVariable readInvalidPolicy
  let (diagMax, rejected₄) := readVariable env diagMaxVariable readPositiveSize
  ({ bindPolicy := bindPolicy.getD default.bindPolicy
     closedQueueMax := closedQueueMax.getD default.closedQueueMax
     onInvalid := onInvalid.getD default.onInvalid
     diagMax := diagMax.getD default.diagMax },
    rejected₁ ++ rejected₂ ++ rejected₃ ++ rejected₄)

end Config

end HandleGuard
