import HandleGuard.Error

/-!
# Numbers for foreign callers

A caller across the foreign interface sees no error values, only numbers: the last error of a
context, whether a call was accepted, and the policy it asks for.

The interface has one more number, 900, for a call that broke off inside a debug context and was
caught on its way out. Here every call ends with an answer or an error, so there is no code for it.
-/

namespace HandleGuard.Foreign

/-- What a foreign caller can learn about a failure. -/
inductive ErrorCode where
  | configuration
  | invalidHandle
  | useAfterClose
  | doubleClose
  | tableFull
  /-- The table that was passed is no debug table, or no usable universal one. -/
  | badTable
  /-- The universal context failed. -/
  | call
deriving DecidableEq, Inhabited, Repr

namespace ErrorCode

/-- The number of an error. Zero is the number of no error. -/
def number : ErrorCode → Nat
  | configuration => 1
  | invalidHandle => 100
  | useAfterClose => 101
  | doubleClose => 102
  | tableFull => 103
  | badTable => 200
  | call => 300

/-- The code of a failed check. -/
def ofDebugError : DebugError → ErrorCode
  | .configuration .. => configuration
  | .invalidHandle .. => invalidHandle
  | .useAfterClose _ => useAfterClose
  | .doubleClose _ => doubleClose
  | .tableFull _ => tableFull

/-- The code of a failed call. -/
def ofCallError : CallError → ErrorCode
  | .check e => ofDebugError e
  | .call .. => call

/-- The number of the last error, if there was one. -/
def lastNumber (e : Option ErrorCode) : Nat := (e.map number).getD 0

theorem number_pos (e : ErrorCode) : 0 < e.number := by cases e <;> decide

theorem number_injective {a b : ErrorCode} (h : a.number = b.number) : a = b := by
  revert h
  cases a <;> cases b <;> decide

end ErrorCode

/-- Whether a request of a foreign caller was carried out. -/
inductive Status where
  | done
  | refused
deriving DecidableEq, Inhabited, Repr

/-- The number of a status. -/
def Status.number : Status → Int
  | done => 0
  | refused => -1

end HandleGuard.Foreign
