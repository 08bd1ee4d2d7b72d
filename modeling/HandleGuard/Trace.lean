import HandleGuard.Json.Decode
import HandleGuard.Schema
import HandleGuard.Text.Quoted

/-!
# Traces

A trace is a list of operations on a debug context, recorded for replay. Operations name the
handles they produce, and refer to handles by such a name or by number. A trace is read from a JSON
object with a version and the operations; each operation is an object with its kind under the key
`op`, or an array that starts with its kind.

* `Trace.parse`: reads a trace
* `TraceError.message`: why a text is no trace
-/

namespace HandleGuard

open Json (Document)

/-- A handle as an operation refers to it. -/
inductive HandleRef where
  /-- By number. -/
  | raw (h : Handle)
  /-- By the name that an earlier operation gave it. -/
  | name (s : String)
deriving DecidableEq, Inhabited, Repr

/-- One operation of a trace; `bind` names the handle it produces. -/
inductive TraceOp where
  | fromInt (value : Int64) (bind : Option String)
  | dup (handle : HandleRef) (bind : Option String)
  | close (handle : HandleRef)
  | asInt (handle : HandleRef)
  | same (a b : HandleRef)
  | invoke (op : OpId) (args : List HandleRef) (bind : Option String)
  | newGeneration
  /-- Resolves a handle and passes nothing on. -/
  | rawUnwrap (handle : HandleRef)
  /-- Closes a debug handle and passes nothing on. -/
  | rawClose (handle : HandleRef)
deriving DecidableEq, Inhabited, Repr

namespace TraceOp

/-- The kind of an operation, as traces and reports write it. -/
def name : TraceOp → String
  | fromInt .. => "from_i64"
  | dup .. => "dup"
  | close _ => "close"
  | asInt _ => "as_i64"
  | same .. => "is"
  | invoke .. => "invoke"
  | newGeneration => "new_generation"
  | rawUnwrap _ => "raw_unwrap"
  | rawClose _ => "raw_close"

end TraceOp

namespace HandleRef

/-- Reads a reference: a number is a handle, and a string is a name. -/
def ofDocument? : Document → Option HandleRef
  | .text s => s.map name
  | d => d.handle?.map raw

end HandleRef

namespace TraceOp

/-- Reads the fields of an operation of the kind `kind`. -/
def ofFields? (kind : String) (d : Document) : Option TraceOp :=
  let ref := Document.required? HandleRef.ofDocument?
  let bound := Document.optional? Document.string?
  match kind with
  | "from_i64" => do
    match ← d.record? ["value", "as"] with
    | [value, as] => return .fromInt (← Document.required? Document.int? value) (← bound as)
    | _ => none
  | "dup" => do
    match ← d.record? ["handle", "as"] with
    | [handle, as] => return .dup (← ref handle) (← bound as)
    | _ => none
  | "close" => do
    match ← d.record? ["handle"] with
    | [handle] => return .close (← ref handle)
    | _ => none
  | "as_i64" => do
    match ← d.record? ["handle"] with
    | [handle] => return .asInt (← ref handle)
    | _ => none
  | "is" => do
    match ← d.record? ["a", "b"] with
    | [a, b] => return .same (← ref a) (← ref b)
    | _ => none
  | "invoke" => do
    match ← d.record? ["code", "args", "as"] with
    | [code, args, as] =>
      let op ← Document.required? Document.opId? code
      let args ← match args with
        | none => some []
        | some args => args.list? HandleRef.ofDocument?
      return .invoke op args (← bound as)
    | _ => none
  | "new_generation" => do
    match ← d.record? [] with
    | [] => return .newGeneration
    | _ => none
  | "raw_unwrap" => do
    match ← d.record? ["handle"] with
    | [handle] => return .rawUnwrap (← ref handle)
    | _ => none
  | "raw_close" => do
    match ← d.record? ["handle"] with
    | [handle] => return .rawClose (← ref handle)
    | _ => none
  | _ => none

/-- Nesting that a text may have in the places where values are held. -/
def nestingLimit : Nat := 127

/-- An operation lies inside the trace and its list of operations. -/
def nestingAround : Nat := 2

/-- Reads an operation. It is held as a value before its kind is known. -/
def ofDocument? (d : Document) : Option TraceOp :=
  if d.isHeld (nestingLimit - nestingAround) then
    match d with
    | .object fields =>
      match fields.filter (·.1 == some "op") with
      | [(_, kind)] => do
        ofFields? (← kind.string?) (.object (fields.filter (·.1 != some "op")))
      | _ => none
    | .array (kind :: items) => do ofFields? (← kind.string?) (.array items)
    | _ => none
  else none

end TraceOp

/-- A list of operations to replay. -/
structure Trace where
  ops : List TraceOp
deriving DecidableEq, Inhabited, Repr

/-- Why a text is no trace. -/
inductive TraceError where
  /-- It is no JSON text of the right shape. -/
  | badJson
  /-- It has another version. -/
  | unsupportedVersion (version : String)
deriving DecidableEq, Repr

/-- The error in words. What exactly is wrong with a JSON text is left open. -/
def TraceError.message : TraceError → String
  | badJson => "parse trace JSON: "
  | unsupportedVersion version =>
    "unsupported trace schema_version " ++ Text.quoted version ++ " (expected " ++
      Text.quoted Schema.trace ++ ")"

namespace Trace

/-- Reads the version and the operations of a trace. -/
def ofDocument? (d : Document) : Option (String × Trace) := do
  match ← d.record? ["schema_version", "ops"] with
  | [version, ops] =>
    return (← Document.required? Document.string? version,
      ⟨← Document.required? (Document.list? TraceOp.ofDocument?) ops⟩)
  | _ => none

/-- Reads the bytes of a trace. -/
def parse (b : ByteArray) : Except TraceError Trace :=
  match (Document.parse b).bind ofDocument? with
  | none => .error .badJson
  | some (version, trace) =>
    if version = Schema.trace then .ok trace else .error (.unsupportedVersion version)

end Trace

end HandleGuard
