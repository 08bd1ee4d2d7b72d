import HandleGuard.Handle

/-!
# What can go wrong with a call

`DebugError` lists the failed checks of the debug layer, each with what it is about, and
`CallError` adds the failures that the universal context reports itself. The wording of each is in
one function, `message`.
-/

namespace HandleGuard

/-- Why a value is no handle of a context. -/
inductive InvalidReason where
  /-- Its slot field is empty. -/
  | malformed
  /-- The context has never used its slot. -/
  | neverIssued
  /-- Its slot now belongs to a later handle. -/
  | staleGeneration
  /-- Its slot was given back and waits for its next use. -/
  | retired
  /-- It carries the tag of another context. -/
  | foreignContext
deriving DecidableEq, Inhabited, Repr

namespace InvalidReason

/-- The reason in words. -/
def text : InvalidReason → String
  | malformed => "malformed"
  | neverIssued => "never issued"
  | staleGeneration => "stale generation"
  | retired => "retired"
  | foreignContext => "foreign context"

/-- Every reason. -/
def all : List InvalidReason := [malformed, neverIssued, staleGeneration, retired, foreignContext]

end InvalidReason

/-- A failed check of the debug layer. -/
inductive DebugError where
  /-- The registry serves one universal context and is bound to another one. -/
  | configuration (bound requested : ContextId)
  /-- The value is no handle of this context, or not any more. -/
  | invalidHandle (handle : Handle) (reason : InvalidReason)
  /-- The handle was closed, and the context still remembers it. -/
  | useAfterClose (handle : Handle)
  /-- The handle to close was closed before. -/
  | doubleClose (handle : Handle)
  /-- Every slot the table may use holds an open handle. -/
  | tableFull (capacity : Nat)
deriving DecidableEq, Inhabited, Repr

namespace DebugError

/-- The error in words. -/
def message : DebugError → String
  | configuration bound requested =>
    "debug mode is already bound to " ++ bound.text ++ "; cannot bind " ++ requested.text ++
      " as well (debugging several universal contexts requires the per-context bind policy)"
  | invalidHandle handle reason => "invalid handle " ++ handle.text ++ " (" ++ reason.text ++ ")"
  | useAfterClose handle => "handle " ++ handle.text ++ " used after it was closed"
  | doubleClose handle => "handle " ++ handle.text ++ " closed twice"
  | tableFull capacity => "handle table is full (" ++ Numeral.decimal capacity ++ " live handles)"

/-- The handle that the error is about. -/
def handle? : DebugError → Option Handle
  | invalidHandle handle _ | useAfterClose handle | doubleClose handle => some handle
  | configuration .. | tableFull _ => none

/-- Whether the value was no handle of the context. -/
def isInvalidHandle : DebugError → Bool
  | invalidHandle .. => true
  | _ => false

/-- Whether a closed handle was used. -/
def isUseAfterClose : DebugError → Bool
  | useAfterClose _ => true
  | _ => false

/-- Whether a handle was closed twice. -/
def isDoubleClose : DebugError → Bool
  | doubleClose _ => true
  | _ => false

end DebugError

/-- Why a call on a context failed. -/
inductive CallError where
  /-- A handle did not pass its check, or no handle could be issued. -/
  | check (error : DebugError)
  /-- The universal context itself reports a failure. -/
  | call (code : UInt32) (text : String)
deriving DecidableEq, Inhabited, Repr

namespace CallError

/-- The error in words. -/
def message : CallError → String
  | check error => error.message
  | call code text => "call failed (" ++ Numeral.decimal code.toNat ++ "): " ++ text

/-- The failed check behind the error, if there is one. -/
def debugError? : CallError → Option DebugError
  | check error => some error
  | call .. => none

end CallError

end HandleGuard
