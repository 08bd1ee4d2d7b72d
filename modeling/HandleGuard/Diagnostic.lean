import HandleGuard.Error

/-!
# Diagnostics

A diagnostic is the record of one failed check or one leaked handle: a code from a fixed
catalogue, a severity, a message, and what it is about. `catalogue` renders the table of codes.
-/

namespace HandleGuard

/-- How serious a diagnostic is. -/
inductive Severity where
  | error
  | warning
deriving DecidableEq, Inhabited, Repr

namespace Severity

/-- The name of the severity. -/
def text : Severity → String
  | error => "Error"
  | warning => "Warning"

/-- Every severity. -/
def all : List Severity := [error, warning]

end Severity

/-- The kinds of diagnostics. -/
inductive DiagnosticCode where
  | configuration
  | invalidHandle
  | useAfterClose
  | doubleClose
  | tableFull
  | leakedHandle
deriving DecidableEq, Inhabited, Repr

namespace DiagnosticCode

/-- The code by itself. -/
def short : DiagnosticCode → String
  | configuration => "HDBG0001"
  | invalidHandle => "HDBG0100"
  | useAfterClose => "HDBG0101"
  | doubleClose => "HDBG0102"
  | tableFull => "HDBG0103"
  | leakedHandle => "HDBG0200"

/-- The code followed by the name of its kind. -/
def name : DiagnosticCode → String
  | configuration => "HDBG0001Configuration"
  | invalidHandle => "HDBG0100InvalidHandle"
  | useAfterClose => "HDBG0101UseAfterClose"
  | doubleClose => "HDBG0102DoubleClose"
  | tableFull => "HDBG0103TableFull"
  | leakedHandle => "HDBG0200LeakedHandle"

/-- What the code means in general. -/
def summary : DiagnosticCode → String
  | configuration => "debug context already bound to a different universal context"
  | invalidHandle => "handle was not issued by this debug context"
  | useAfterClose => "handle used after it was closed"
  | doubleClose => "handle closed twice"
  | tableFull => "no free handle slots"
  | leakedHandle => "handle still open"

/-- What can be done about it, where there is something to say. -/
def help? : DiagnosticCode → Option String
  | configuration =>
    some "Set HDEBUG_SINGLETON=0 to give every universal context its own debug context."
  | useAfterClose => some "Dup the handle before closing it if it is still needed."
  | doubleClose => some "Every handle must be closed exactly once."
  | leakedHandle => some "Close the handle before the owning scope returns."
  | invalidHandle | tableFull => none

/-- Only a leak is a warning. -/
def severity : DiagnosticCode → Severity
  | leakedHandle => .warning
  | _ => .error

/-- Every code, in the order of the catalogue. -/
def all : List DiagnosticCode :=
  [configuration, invalidHandle, useAfterClose, doubleClose, tableFull, leakedHandle]

end DiagnosticCode

/-- The kind of diagnostic that records the error. -/
def DebugError.code : DebugError → DiagnosticCode
  | configuration .. => .configuration
  | invalidHandle .. => .invalidHandle
  | useAfterClose _ => .useAfterClose
  | doubleClose _ => .doubleClose
  | tableFull _ => .tableFull

/-- The record of one failed check or one leak. -/
structure Diagnostic where
  code : DiagnosticCode
  severity : Severity
  message : String
  handle : Option Handle
  context : Option ContextId
  help : Option String
deriving DecidableEq, Inhabited, Repr

namespace Diagnostic

/-- A diagnostic about no handle and no context, with the help text of its code. -/
def ofCode (code : DiagnosticCode) (message : String) : Diagnostic :=
  { code, severity := code.severity, message, handle := none, context := none, help := code.help? }

/-- The record of a check that failed on a context. -/
def ofError (error : DebugError) (context : ContextId) : Diagnostic :=
  { ofCode error.code error.message with handle := error.handle?, context := some context }

/-- The diagnostic in words: one line, and a second one when there is help. -/
def text (d : Diagnostic) : String :=
  d.code.short ++ " " ++ d.severity.text ++ ": " ++ d.message ++
    (match d.context with
      | some c => " [" ++ c.text ++ "]"
      | none => "") ++
    (match d.help with
      | some help => "\n  help: " ++ help
      | none => "")

/-- The row of a code in the catalogue. -/
def catalogueRow (code : DiagnosticCode) : String :=
  "| " ++ code.short ++ " | " ++ code.severity.text ++ " | " ++ code.summary ++ " | " ++
    code.help?.getD "" ++ " |\n"

/-- The catalogue of codes, as a Markdown document. -/
def catalogue : String :=
  "# hdebug diagnostics catalog\n\n" ++
    "This document is generated from `crates/hdebug-core/src/diagnostics.rs`.\n\n" ++
    "| Code | Severity | Message | Help |\n" ++
    "| ---- | -------- | ------- | ---- |\n" ++
    String.join (DiagnosticCode.all.map catalogueRow)

end Diagnostic

end HandleGuard
