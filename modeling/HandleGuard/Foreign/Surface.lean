import HandleGuard.Diagnostic
import HandleGuard.Context.Calls
import HandleGuard.Foreign.OpTable
import HandleGuard.Leak
import HandleGuard.Registry
import HandleGuard.Store

/-!
# The state behind the foreign interface

Hosts own universal tables, each before an object store. Guards are debug contexts with what the
foreign interface adds: the policy in force, the last error, and the table that is handed out for
the context. Everything that a call can change is in `Surface`.

A host's table has the same layout as a debug table, and its private part must not be taken for a
debug context. So `Surface` remembers which tables were filled for a debug context: to be one of
them is the first thing that is asked of a pointer.

A check that fails under the abort policy stops the process. The state then keeps the reason of
the stop, and what it is otherwise no longer matters.
-/

namespace HandleGuard.Foreign

/-- Calls that the functions of a host refuse before its store sees them. -/
structure Refusals where
  /-- The integer that no object can be made of. -/
  value : Option Int64
  /-- Whether comparing null is refused. -/
  nullComparison : Bool
deriving DecidableEq, Inhabited, Repr

/-- No call is refused. -/
def Refusals.none : Refusals := ⟨.none, false⟩

/-- Whether a call is refused. -/
def Refusals.refuses (r : Refusals) : Request → Bool
  | .fromInt v => r.value == some v
  | .same a b => r.nullComparison && (a.isNull || b.isNull)
  | _ => false

/-- A universal context of a host. -/
structure Host where
  store : ObjectStore
  refusals : Refusals
deriving DecidableEq, Inhabited, Repr

/-- Answers a call through a function of the host's table. -/
def Host.respond (host : Host) (r : Request) : Returned × Host :=
  if host.refusals.refuses r then (.failure r.operation, host)
  else
    let (a, store) := host.store.respond r
    (.ofAnswer r.operation a, { host with store })

/-- A debug context that foreign callers can reach. -/
structure Guard where
  context : DebugContext
  /-- The universal table it stands before. -/
  universal : TableRef
  /-- The name of the universal context when this one was made. -/
  universalName : String
  policy : InvalidPolicy
  lastError : Option ErrorCode
  /-- The table that is handed out for the context. -/
  table : Pointer
deriving Inhabited

/-- Why the process stopped. -/
inductive Stop where
  /-- A check failed under the abort policy. -/
  | fatal (d : Diagnostic)
  /-- Tables forward a call to each other without end. -/
  | endlessForwarding

/-- What is printed when the process stops. -/
def Stop.text : Stop → String
  | fatal d => "hdebug: fatal: " ++ d.text
  | endlessForwarding => "stack overflow"

/-- Everything that a foreign call can change. -/
structure Surface where
  /-- The registry of the process, which knows universal contexts by their tables. -/
  registry : Registry TableRef
  hosts : Array Host
  guards : Array Guard
  tables : Array OpTable
  /-- The tables that were ever filled for a debug context. -/
  debugTables : List TableRef
  /-- The last error that belongs to no debug table. -/
  lastError : Option ErrorCode
  stopped : Option Stop

namespace Surface

/-- The state of a new process. -/
def new (config : Config) : Surface := ⟨.new config, #[], #[], #[], [], none, none⟩

/-- The identity of the next context; universal contexts of hosts are counted too. -/
def nextId (s : Surface) : ContextId := ⟨UInt64.ofNat (s.hosts.size + s.guards.size + 1)⟩

/-- The identity of a universal context: its place, counted from one since null is no place. -/
def universalId (t : TableRef) : ContextId := .ofAddress (UInt64.ofNat (t + 1))

/-- The identity of debug context `i`. -/
def guardId (s : Surface) (i : Nat) : ContextId := (s.guards[i]?.map (·.context.id)).getD default

/-- Puts a new table in place and tells where. -/
def addTable (s : Surface) (t : OpTable) : TableRef × Surface :=
  (s.tables.size, { s with tables := s.tables.push t })

/-- A universal context of a host, with its table. -/
def addHost (s : Surface) (name : Option ByteArray) (version : UInt32) (missing : List Operation)
    (refusals : Refusals) : TableRef × Surface :=
  let i := s.hosts.size
  { s with hosts := s.hosts.push ⟨.empty, refusals⟩ }.addTable (.ofHost i name version missing)

/-- Changes table `t`. -/
def modifyTable (s : Surface) (t : TableRef) (f : OpTable → OpTable) : Surface :=
  { s with tables := s.tables.modify t f }

/-- Fills table `t` with what it has as a debug table. Whatever it was before is forgotten; that it
is a debug table is remembered. -/
def fill (s : Surface) (t : TableRef) (table : OpTable) : Surface :=
  { s.modifyTable t fun _ => table with
    debugTables := if t < s.tables.size then s.debugTables.insert t else s.debugTables }

/-- Changes guard `i`. -/
def modifyGuard (s : Surface) (i : Nat) (f : Guard → Guard) : Surface :=
  { s with guards := s.guards.modify i f }

/-- The debug context of guard `i`. -/
def context (i : Nat) : Focus Surface where
  update f s :=
    let g := s.guards[i]?.getD default
    let (a, context) := f g.context
    (a, { s with guards := s.guards.setIfInBounds i { g with context } })

/-- The debug context behind a pointer. What the table holds is only looked at when it was filled
for a debug context: it could have been written by anyone else. -/
def guard? (s : Surface) : Pointer → Option Nat
  | none => none
  | some t => if t ∈ s.debugTables then s.tables[t]?.bind OpTable.state? else none

/-- The universal table behind a pointer, with the name of its context. -/
def universal? (s : Surface) (p : Pointer) : Option (TableRef × String) := do
  let t ← p
  let table ← s.tables[t]?
  if table.isCurrent then some (t, table.universalName) else none

/-- Stops the process, unless it has stopped already. -/
def stop (s : Surface) (reason : Stop) : Surface :=
  { s with stopped := s.stopped <|> some reason }

/-- Notes that a pointer led to no usable table. -/
def badTable (s : Surface) : Surface := { s with lastError := some .badTable }

/-- Notes that a binding was refused, and stops under the abort policy of the registry. -/
def failBinding (s : Surface) (e : DebugError) : Surface :=
  let s := { s with lastError := some (.ofDebugError e) }
  match s.registry.config.onInvalid with
  | .abort => s.stop (.fatal { Diagnostic.ofCode e.code e.message with handle := e.handle? })
  | .report => s

/-- Notes a failed call on guard `i`, and stops when a check failed under its abort policy. -/
def failCall (s : Surface) (i : Nat) (e : CallError) : Surface :=
  let s := s.modifyGuard i ({ · with lastError := some (.ofCallError e) })
  match e, s.guards[i]? with
  | .check e, some g =>
    match g.policy with
    | .abort => s.stop (.fatal (.ofError e g.context.id))
    | .report => s
  | _, _ => s

/-- Runs `f` on the debug context behind a pointer. Its failure is noted, and `onFail` returned. -/
def onGuard {α : Type} (p : Pointer) (onFail : α)
    (f : Nat → Surface → Except CallError α × Surface) (s : Surface) : α × Surface :=
  match s.guard? p with
  | none => (onFail, s.badTable)
  | some i =>
    match f i s with
    | (.ok a, s) => (a, s)
    | (.error e, s) => (onFail, s.failCall i e)

end Surface

end HandleGuard.Foreign
