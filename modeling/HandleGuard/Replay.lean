import HandleGuard.Context.Calls
import HandleGuard.Json.Forms
import HandleGuard.Store
import HandleGuard.Trace

/-!
# Replaying traces

A trace is replayed against a fresh debug context before a fresh object store. Failed checks are
what a replay looks for: they are noted in the result of their operation and the replay goes on. A
name that no operation has bound, or a call that the store itself refuses, stops it.

* `replay`: the report of a trace, or why its replay stopped
* `ReplayReport.toJson`: the written form of a report
-/

namespace HandleGuard

/-- A debug context beside the object store it stands before. -/
abbrev Session := DebugContext × ObjectStore

namespace Session

/-- A fresh debug context before a fresh store. -/
def start (config : Config) : Session :=
  (.new ⟨2⟩ 0 ⟨1⟩ "memory" config, .empty)

/-- The store as the universal context of the session. -/
def universal : Universal Session := ObjectStore.respond.beside

/-- The answer of the session's debug context to a call. -/
def respond : Universal Session := DebugContext.respond .first universal

/-- The universal handle that `h` stands for. -/
def resolve (h : Handle) (s : Session) : Except DebugError Handle × Session :=
  DebugContext.resolve .first universal h s

/-- Closes `h` in the debug context and nowhere else. -/
def closeHandle (h : Handle) (s : Session) : Except DebugError Handle × Session :=
  DebugContext.closeHandle .first universal h s

end Session

/-- Why an operation stops its replay. -/
inductive ReplayCause where
  /-- No operation has bound the name. -/
  | unknownName (s : String)
  /-- The store refuses the call. -/
  | failedCall (e : CallError)
deriving DecidableEq, Repr

/-- The cause in words. -/
def ReplayCause.message : ReplayCause → String
  | unknownName s => "unknown handle name " ++ Text.quoted s
  | failedCall e => e.message

/-- Where and why a replay stopped. -/
structure ReplayError where
  index : Nat
  op : TraceOp
  cause : ReplayCause
deriving DecidableEq, Repr

/-- The error in words. -/
def ReplayError.message (e : ReplayError) : String :=
  "op " ++ Numeral.decimal e.index ++ " (" ++ e.op.name ++ "): " ++ e.cause.message

/-- What became of one operation. -/
structure OpResult where
  /-- The kind of the operation. -/
  op : String
  handle : Option Handle
  value : Option Int64
  same : Option Bool
  /-- The check that failed. -/
  error : Option DiagnosticCode
deriving DecidableEq, Inhabited, Repr

namespace OpResult

/-- The result of an operation that answers nothing. -/
def plain (op : String) : OpResult :=
  { op, handle := none, value := none, same := none, error := none }

/-- The result of an operation whose check failed. -/
def failed (op : String) (e : DebugError) : OpResult := { plain op with error := some e.code }

/-- The result of an answered call. -/
def answered (op : String) : Reply → OpResult
  | .handle h => { plain op with handle := some h }
  | .closed => plain op
  | .value v => { plain op with value := some v }
  | .same b => { plain op with same := some b }

/-- The written form of a result. -/
def toJson (r : OpResult) : Json :=
  .object
    ([("op", .text r.op)] ++
      Json.optional "handle" (r.handle.map Handle.toJson) ++
      Json.optional "value" (r.value.map fun v => .int v.toInt) ++
      Json.optional "is" (r.same.map Json.bool) ++
      Json.optional "error" (r.error.map fun c => .text c.short))

end OpResult

/-- An operation with its references resolved. -/
inductive ResolvedOp where
  /-- A call, and the name for the handle it answers. -/
  | call (r : Request) (bind : Option String)
  | newGeneration
  | unwrap (h : Handle)
  | close (h : Handle)
deriving DecidableEq, Repr

/-- The handles that have names, latest first. -/
abbrev HandleNames := List (String × Handle)

namespace HandleNames

/-- The handle that a reference means. -/
def find (names : HandleNames) : HandleRef → Except ReplayCause Handle
  | .raw h => .ok h
  | .name s =>
    match names.lookup s with
    | some h => .ok h
    | none => .error (.unknownName s)

/-- The handles that references mean, up to the first unknown name. -/
def findAll (names : HandleNames) : List HandleRef → Except ReplayCause (List Handle)
  | [] => .ok []
  | ref :: refs => do
    let h ← names.find ref
    let hs ← names.findAll refs
    return h :: hs

/-- Names the handle of a reply, if there are a name and a handle. -/
def bind (names : HandleNames) : Option String → Reply → HandleNames
  | some s, .handle h => (s, h) :: names
  | _, _ => names

/-- Resolves the references of an operation, from left to right. -/
def resolve (names : HandleNames) : TraceOp → Except ReplayCause ResolvedOp
  | .fromInt v bind => .ok (.call (.fromInt v) bind)
  | .dup h bind => do return .call (.dup (← names.find h)) bind
  | .close h => do return .call (.close (← names.find h)) none
  | .asInt h => do return .call (.asInt (← names.find h)) none
  | .same a b => do return .call (.same (← names.find a) (← names.find b)) none
  | .invoke op args bind => do return .call (.invoke op (← names.findAll args)) bind
  | .newGeneration => .ok .newGeneration
  | .rawUnwrap h => do return .unwrap (← names.find h)
  | .rawClose h => do return .close (← names.find h)

end HandleNames

/-- A replay under way. -/
structure Replayer where
  session : Session
  names : HandleNames

namespace Replayer

/-- A replay that is about to start. -/
def start (config : Config) : Replayer := ⟨.start config, []⟩

/-- Performs an operation of the kind `kind` whose references are resolved. -/
def perform (kind : String) (op : ResolvedOp) (p : Replayer) :
    Except ReplayCause (OpResult × Replayer) :=
  match op with
  | .call r bind =>
    match Session.respond r p.session with
    | (.ok reply, session) => .ok (.answered kind reply, ⟨session, p.names.bind bind reply⟩)
    | (.error (.check e), session) => .ok (.failed kind e, { p with session })
    | (.error (.call code text), _) => .error (.failedCall (.call code text))
  | .newGeneration =>
    let (generation, context) := p.session.1.newGeneration
    .ok ({ OpResult.plain kind with value := some generation.toInt64 },
      { p with session := (context, p.session.2) })
  | .unwrap h =>
    match p.session.resolve h with
    | (.ok uh, session) =>
      .ok ({ OpResult.plain kind with handle := some uh }, { p with session })
    | (.error e, session) => .ok (.failed kind e, { p with session })
  | .close h =>
    match p.session.closeHandle h with
    | (.ok _, session) => .ok (.plain kind, { p with session })
    | (.error e, session) => .ok (.failed kind e, { p with session })

/-- Replays one operation. -/
def step (op : TraceOp) (p : Replayer) : Except ReplayCause (OpResult × Replayer) := do
  perform op.name (← p.names.resolve op) p

/-- Replays operations, the first of which is number `index`. -/
def run (index : Nat) : List TraceOp → Replayer → Except ReplayError (List OpResult × Replayer)
  | [], p => .ok ([], p)
  | op :: ops, p =>
    match p.step op with
    | .error cause => .error ⟨index, op, cause⟩
    | .ok (result, p) =>
      match run (index + 1) ops p with
      | .error e => .error e
      | .ok (results, p) => .ok (result :: results, p)

end Replayer

/-- What a replay found. -/
structure ReplayReport where
  /-- Whether no check failed and no handle leaked. -/
  ok : Bool
  opsTotal : Nat
  results : List OpResult
  diagnostics : List Diagnostic
  leaks : List LeakedHandle
  diagnosticsDropped : Nat
deriving DecidableEq, Inhabited, Repr

namespace ReplayReport

/-- The written form of a report. -/
def toJson (r : ReplayReport) : Json :=
  .object [("schema_version", .text Schema.report), ("ok", .bool r.ok),
    ("ops_total", .nat r.opsTotal), ("results", .array (r.results.map OpResult.toJson)),
    ("diagnostics", .array (r.diagnostics.map Diagnostic.toJson)),
    ("leaks", .array (r.leaks.map OpenHandle.toJson)),
    ("diagnostics_dropped", .nat r.diagnosticsDropped)]

end ReplayReport

/-- Replays a trace under `config`. -/
def replay (trace : Trace) (config : Config) : Except ReplayError ReplayReport :=
  match Replayer.run 0 trace.ops (.start config) with
  | .error e => .error e
  | .ok (results, p) =>
    let context := p.session.1
    let leaks := context.leakReport.leaks
    let diagnostics := context.log.snapshot
    let dropped := context.log.dropped
    .ok {
      ok := diagnostics.isEmpty && dropped == 0 && leaks.isEmpty
      opsTotal := trace.ops.length
      results
      diagnostics
      leaks
      diagnosticsDropped := dropped }

end HandleGuard
