import HandleGuard.Table
import HandleGuard.Text.Blank
import HandleGuard.Text.Quoted

/-!
# Settings of the debug layer

How many debug contexts a registry may hold, how much history a context keeps, and what happens to
the process when a check fails.
-/

namespace HandleGuard

/-- How many debug contexts a registry may hold. -/
inductive BindPolicy where
  /-- One, for the first universal context that asks. -/
  | singleton
  /-- One for each universal context. -/
  | perContext
deriving DecidableEq, Inhabited, Repr

/-- What the operation tables do when a check fails. -/
inductive InvalidPolicy where
  /-- Print the diagnostic and stop the process. -/
  | abort
  /-- Record the error and answer with a failure value. -/
  | report
deriving DecidableEq, Inhabited, Repr

/-- A text that names no policy: blanks cut off, letters in lower case. -/
structure UnknownPolicy where
  value : String
deriving DecidableEq, Repr

/-- The error in words. -/
def UnknownPolicy.message (e : UnknownPolicy) : String :=
  "invalid handle policy " ++ Text.quoted e.value ++ " (expected one of: abort, report)"

namespace InvalidPolicy

/-- The name of the policy. -/
def text : InvalidPolicy → String
  | abort => "abort"
  | report => "report"

/-- The policy that a text names, in letters of either case and with blanks around it. -/
def parse (s : String) : Except UnknownPolicy InvalidPolicy :=
  let name := String.ofList ((Text.trim s.toList).map Char.toLower)
  if name = "abort" then .ok .abort
  else if name = "report" ∨ name = "error" then .ok .report
  else .error ⟨name⟩

end InvalidPolicy

/-- The settings of a debug context or of a registry of them. -/
structure Config where
  bindPolicy : BindPolicy
  closedQueueMax : Nat
  onInvalid : InvalidPolicy
  diagMax : Nat
deriving DecidableEq, Repr

/-- The settings used where nothing else is asked for. -/
def Config.default : Config :=
  { bindPolicy := .singleton
    closedQueueMax := HandleTable.defaultClosedQueueMax
    onInvalid := .abort
    diagMax := 4096 }

instance : Inhabited Config := ⟨Config.default⟩

end HandleGuard
