import HandleGuard.Json.Decode
import HandleGuard.Leak

/-!
# Written forms

How diagnostics, leak reports and their parts are written as JSON, and how they are read back.
Fields are written in a fixed order, and a field that is empty is left out.
-/

namespace HandleGuard

open Json (Document)

/-- A 64-bit word. -/
def wordJson (w : UInt64) : Json := .int w.toNat

namespace Handle

/-- The written form of a handle is its number. -/
def toJson (h : Handle) : Json := wordJson h.raw

end Handle

namespace ContextId

/-- The written form of an identity is its number. -/
def toJson (c : ContextId) : Json := wordJson c.value

end ContextId

namespace OpId

/-- The written form of an operation code is its number. -/
def toJson (op : OpId) : Json := .int op.code.toNat

end OpId

namespace InvalidReason

/-- The written name of a reason. -/
def key : InvalidReason → String
  | malformed => "malformed"
  | neverIssued => "never_issued"
  | staleGeneration => "stale_generation"
  | retired => "retired"
  | foreignContext => "foreign_context"

/-- The written form of a reason is its name. -/
def toJson (r : InvalidReason) : Json := .text r.key

/-- Reads a reason. -/
def ofDocument? (d : Document) : Option InvalidReason := d.choice? key all

end InvalidReason

namespace Severity

/-- The written form of a severity is its name. -/
def toJson (s : Severity) : Json := .text s.text

/-- Reads a severity. -/
def ofDocument? (d : Document) : Option Severity := d.choice? text all

end Severity

namespace DiagnosticCode

/-- The written form of a code is its name. -/
def toJson (c : DiagnosticCode) : Json := .text c.name

/-- Reads a code. -/
def ofDocument? (d : Document) : Option DiagnosticCode := d.choice? name all

end DiagnosticCode

namespace Diagnostic

/-- The written form of a diagnostic. -/
def toJson (d : Diagnostic) : Json :=
  .object
    ([("code", d.code.toJson), ("severity", d.severity.toJson), ("message", .text d.message)] ++
      Json.optional "handle" (d.handle.map Handle.toJson) ++
      Json.optional "context" (d.context.map ContextId.toJson) ++
      Json.optional "help" (d.help.map Json.text))

/-- Reads a diagnostic. -/
def ofDocument? (d : Document) : Option Diagnostic := do
  match ← d.record? ["code", "severity", "message", "handle", "context", "help"] with
  | [code, severity, message, handle, context, help] =>
    return {
      code := ← Document.required? DiagnosticCode.ofDocument? code
      severity := ← Document.required? Severity.ofDocument? severity
      message := ← Document.required? Document.string? message
      handle := ← Document.optional? Document.handle? handle
      context := ← Document.optional? Document.contextId? context
      help := ← Document.optional? Document.string? help }
  | _ => none

end Diagnostic

namespace OpenHandle

/-- The written form of an open or leaked handle. -/
def toJson (o : OpenHandle) : Json :=
  .object [("handle", o.handle.toJson), ("underlying", o.underlying.toJson),
    ("opened_in", wordJson o.openedIn)]

/-- Reads an open or leaked handle. -/
def ofDocument? (d : Document) : Option OpenHandle := do
  match ← d.record? ["handle", "underlying", "opened_in"] with
  | [handle, underlying, openedIn] =>
    return {
      handle := ← Document.required? Document.handle? handle
      underlying := ← Document.required? Document.handle? underlying
      openedIn := ← Document.required? Document.word? openedIn }
  | _ => none

end OpenHandle

namespace LeakReport

/-- The written form of a leak report. -/
def toJson (r : LeakReport) : Json :=
  .object [("schema_version", .text r.schemaVersion), ("context", r.context.toJson),
    ("generation", wordJson r.generation), ("leaks", .array (r.leaks.map OpenHandle.toJson))]

/-- Reads a leak report. -/
def ofDocument? (d : Document) : Option LeakReport := do
  match ← d.record? ["schema_version", "context", "generation", "leaks"] with
  | [schemaVersion, context, generation, leaks] =>
    return {
      schemaVersion := ← Document.required? Document.string? schemaVersion
      context := ← Document.required? Document.contextId? context
      generation := ← Document.required? Document.word? generation
      leaks := ← Document.required? (Document.list? OpenHandle.ofDocument?) leaks }
  | _ => none

end LeakReport

end HandleGuard
