import HandleGuard.Config
import HandleGuard.Diagnostic.Log
import HandleGuard.Request

/-!
# Debug contexts

The state of a debug context: who it is, which universal context it stands before, its handle
table, its log of diagnostics, and the hook that is called when a check fails. What it does with
calls is in `HandleGuard.Context.Calls`.
-/

namespace HandleGuard

/-- Something a hook does when it is called. All but the last act on the context itself. -/
inductive HookAction where
  | resolve (h : Handle)
  | closeHandle (h : Handle)
  | openHandle (h : Handle)
  | close (h : Handle)
  | universalClose (h : Handle)
deriving DecidableEq, Inhabited, Repr

/-- What a hook writes down. -/
inductive HookEvent where
  /-- The hook was called with this diagnostic. -/
  | called (d : Diagnostic)
  /-- An action of the hook ended; one that answers no handle counts as null. -/
  | performed (result : Except CallError Handle)

/-- A context that checks every handle before it passes a call on. -/
structure DebugContext where
  id : ContextId
  /-- The identity of the universal context that calls are passed on to. -/
  universalId : ContextId
  name : String
  config : Config
  table : HandleTable
  log : DiagnosticLog
  /-- The actions of the hook, when one is installed. -/
  hook : Option (List HookAction)
  hookLog : Array HookEvent
deriving Inhabited

namespace DebugContext

/-- A debug context before the universal context `universalName`. -/
def new (id : ContextId) (tag : Nat) (universalId : ContextId) (universalName : String)
    (config : Config) : DebugContext :=
  { id
    universalId
    name := universalName ++ " (debug)"
    config
    table := .new tag config.closedQueueMax
    log := .new config.diagMax
    hook := none
    hookLog := #[] }

/-- Runs a table operation on the context's table. -/
def onTable {α : Type} (op : HandleTable → α × HandleTable) (d : DebugContext) :
    α × DebugContext :=
  let (a, table) := op d.table
  (a, { d with table })

/-- Writes an event to the hook's notes. -/
def noteHook (d : DebugContext) (e : HookEvent) : DebugContext :=
  { d with hookLog := d.hookLog.push e }

/-- Records a failed check: a diagnostic goes to the log, and then the hook is called with it. -/
def record (d : DebugContext) (e : DebugError) : DebugContext :=
  let diagnostic := Diagnostic.ofError e d.id
  let d := { d with log := d.log.push diagnostic }
  if d.hook.isSome then d.noteHook (.called diagnostic) else d

/-- The context in one line, for people who debug the debugger. -/
def summary (d : DebugContext) : String :=
  "DebugContext \x7b id: ContextId(" ++ Numeral.decimal d.id.value.toNat ++
    "), universal: ContextId(" ++ Numeral.decimal d.universalId.value.toNat ++
    "), name: " ++ Text.quoted d.name ++ ", .. \x7d"

/-- Installs a hook, or removes it. -/
def setHook (d : DebugContext) (hook : Option (List HookAction)) : DebugContext :=
  { d with hook }

/-- Hands out the hook's notes and forgets them. -/
def takeHookLog (d : DebugContext) : Array HookEvent × DebugContext :=
  (d.hookLog, { d with hookLog := #[] })

/-- Replaces the table by an empty one with the same tag and other limits. -/
def limitTable (d : DebugContext) (closedQueueMax capacity : Nat) : DebugContext :=
  { d with table := .withCapacity d.table.tag closedQueueMax capacity }

/-- Hands out the diagnostics and forgets them. -/
def takeDiagnostics (d : DebugContext) : List Diagnostic × DebugContext :=
  let (entries, log) := d.log.drain
  (entries, { d with log })

end DebugContext

end HandleGuard
