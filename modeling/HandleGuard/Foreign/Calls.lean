import HandleGuard.Foreign.Surface

/-!
# Calls through tables

A call through a table runs the function in the slot of the operation. A host's function asks the
host's store. A debug function asks the debug context behind the table, which checks handles and
calls the universal table it stands before, so calls go from table to table. Tables may be filled
anew at any time and could so come to stand before each other; how far a call is forwarded is
bounded by `Surface.depth`, which every call that ends stays below.
-/

namespace HandleGuard.Foreign.Surface

/-- What runs when a table is called. -/
abbrev Caller := TableRef → Request → Surface → Returned × Surface

/-- The failure of a call for which the universal table has no function. -/
def missingSlot (universalName : String) (op : Operation) : CallError :=
  .call (UInt32.ofNat ErrorCode.call.number)
    ("universal context " ++ universalName ++ " has no " ++ op.slotName)

/-- Whether table `t` has a function for `op`. -/
def has (s : Surface) (t : TableRef) (op : Operation) : Bool :=
  match s.tables[t]? with
  | some table => table.functions.has op
  | none => false

/-- The universal context of guard `i`, as it answers through its table. -/
def universalOf (call : Caller) (i : Nat) : Universal Surface := fun r s =>
  match s.guards[i]? with
  | none => (.error (missingSlot "" r.operation), s)
  | some g =>
    if s.has g.universal r.operation then
      let (returned, s) := call g.universal r s
      (returned.read r.operation, s)
    else (.error (missingSlot g.universalName r.operation), s)

/-- Runs the host function for a call. It takes the private part for that of a host. -/
def callHost (t : TableRef) (r : Request) (s : Surface) : Returned × Surface :=
  match s.tables[t]?.map OpTable.backing with
  | some (.state i) =>
    match s.hosts[i]? with
    | some host =>
      let (returned, host) := host.respond r
      (returned, { s with hosts := s.hosts.setIfInBounds i host })
    | none => (.failure r.operation, s)
  | _ => (.failure r.operation, s)

/-- Runs the debug function for a call. -/
def callGuard (call : Caller) (t : TableRef) (r : Request) (s : Surface) : Returned × Surface :=
  onGuard (some t) (.failure r.operation)
    (fun i s =>
      let (a, s) := DebugContext.respond (context i) (universalOf call i) r s
      (a.map Returned.ofReply, s)) s

/-- Runs the function of table `t` for a call, through at most `depth` tables. -/
def callWithin : Nat → Caller
  | 0, _, r, s => (.failure r.operation, s.stop .endlessForwarding)
  | depth + 1, t, r, s =>
    match s.tables[t]?.map OpTable.functions with
    | some .debug => callGuard (callWithin depth) t r s
    | some (.host _) => callHost t r s
    | _ => (.failure r.operation, s)

/-- How many tables a call may pass. Before it comes back to the same table with the same handles,
its handles are open ones of the debug contexts on the way, or all null. -/
def depth (s : Surface) : Nat :=
  s.guards.foldl (fun n g => n + g.context.table.openCount) (s.tables.size + 2)

/-- Runs the function of table `t` for a call. -/
def call (t : TableRef) (r : Request) (s : Surface) : Returned × Surface :=
  callWithin s.depth t r s

/-- The universal context of guard `i` for an operation that starts at the guard. -/
def universalOfGuard (i : Nat) : Universal Surface := fun r s => universalOf call i r s

/-- Issues a handle of the debug context behind `p` for `uh`. -/
def openHandle (p : Pointer) (uh : Handle) (s : Surface) : Handle × Surface :=
  onGuard p .null (fun i s =>
    let (r, s) := DebugContext.openHandle (context i) (universalOfGuard i) uh s
    (r.mapError .check, s)) s

/-- The universal handle that `h` stands for in the debug context behind `p`. -/
def resolve (p : Pointer) (h : Handle) (s : Surface) : Handle × Surface :=
  onGuard p .null (fun i s =>
    let (r, s) := DebugContext.resolve (context i) (universalOfGuard i) h s
    (r.mapError .check, s)) s

/-- Closes `h` in the debug context behind `p` and nowhere else. -/
def closeHandle (p : Pointer) (h : Handle) (s : Surface) : Surface :=
  (onGuard p () (fun i s =>
    let (r, s) := DebugContext.closeHandle (context i) (universalOfGuard i) h s
    ((r.map fun _ => ()).mapError .check, s)) s).2

/-- Starts a leak generation of the debug context behind `p`. -/
def newGeneration (p : Pointer) (s : Surface) : UInt64 × Surface :=
  onGuard p 0 (fun i s =>
    let (generation, s) := (context i).update DebugContext.newGeneration s
    (.ok generation, s)) s

/-- How many handles of leak generation `since` and later are open. -/
def openHandleCount (p : Pointer) (since : UInt64) (s : Surface) : Nat × Surface :=
  onGuard p 0 (fun i s => (.ok (((context i).get s).openHandles since).length, s)) s

/-- The number of the last error, which is forgotten: of the debug context behind `p`, or, when
`p` is null, of everything that belongs to no debug table. -/
def takeLastError (p : Pointer) (s : Surface) : Nat × Surface :=
  match p with
  | none => (ErrorCode.lastNumber s.lastError, { s with lastError := none })
  | some _ =>
    match s.guard? p with
    | none => (ErrorCode.badTable.number, s)
    | some i =>
      (ErrorCode.lastNumber (s.guards[i]?.bind Guard.lastError),
        s.modifyGuard i ({ · with lastError := none }))

/-- The policy of a number. -/
def policy? (n : Nat) : Option InvalidPolicy :=
  match n with
  | 0 => some .abort
  | 1 => some .report
  | _ => none

/-- Changes what a failed check on the debug context behind `p` does. -/
def setPolicy (p : Pointer) (n : Nat) (s : Surface) : Status × Surface :=
  match s.guard? p, policy? n with
  | some i, some policy => (.done, s.modifyGuard i ({ · with policy }))
  | _, _ => (.refused, s)

end HandleGuard.Foreign.Surface
