import HandleGuard.Proofs.Foreign.Agreement

/-!
# The calls of a process

A process makes and binds tables, calls through tables, and calls debug contexts by pointer. Nothing
keeps it from passing a pointer that leads to no debug table: null, memory that was not filled yet,
or the table of a host. The functions of debug tables, too, may be called with any such pointer.

* `Surface.callDebug`      a function of a debug table, called with any pointer
* `Surface.ProcessCall`    the calls, and what they do to the state
* `GuardCall.through_eq`   a call by pointer asks the debug context behind it, if there is one
-/

namespace HandleGuard.Foreign.Surface

variable {s : Surface}

/-! ### Calls by pointer -/

/-- Runs the debug function for a call, with the pointer `p` where the table is expected. -/
def callDebug (p : Pointer) (r : Request) (s : Surface) : Returned × Surface :=
  onGuard p (.failure r.operation)
    (fun i s' =>
      let (a, s') := DebugContext.respond (context i) (universalOf (callWithin (s.depth - 1)) i) r s'
      (a.map Returned.ofReply, s')) s

/-- A call through a table with debug functions runs the debug function, which is passed the table
itself. -/
theorem call_eq_callDebug {t : TableRef} (h : s.tables[t]?.map OpTable.functions = some .debug)
    (r : Request) : s.call t r = callDebug (some t) r s := by
  obtain ⟨n, hn⟩ := s.exists_depth_eq
  rw [call, callDebug, hn, callWithin, h]
  rfl

theorem onGuard_of_none {α : Type} {p : Pointer} (h : s.guard? p = none) (onFail : α)
    (f : Nat → Surface → Except CallError α × Surface) : onGuard p onFail f s = (onFail, s.badTable) := by
  rw [onGuard, h]

namespace GuardCall

/-- What the caller sees when there is no debug context, or when it fails. -/
def failure : GuardCall → Seen
  | call r => .returned (.failure r.operation)
  | openHandle _ | resolve _ => .returned (.handle .null)
  | closeHandle _ => .returned .nothing
  | newGeneration | openHandleCount _ => .number 0

/-- The call by the pointer `p`. -/
def through (p : Pointer) (s : Surface) : GuardCall → Seen × Surface
  | call r =>
    let (a, s) := s.callDebug p r
    (.returned a, s)
  | openHandle u =>
    let (a, s) := s.openHandle p u
    (.returned (.handle a), s)
  | resolve h =>
    let (a, s) := s.resolve p h
    (.returned (.handle a), s)
  | closeHandle h => (.returned .nothing, s.closeHandle p h)
  | newGeneration =>
    let (generation, s) := s.newGeneration p
    (.number generation.toNat, s)
  | openHandleCount since =>
    let (n, s) := s.openHandleCount p since
    (.number n, s)

/-- On a debug table this is the call that agrees with a method of the context behind it. -/
theorem through_eq_apply {t : TableRef} (h : s.tables[t]?.map OpTable.functions = some .debug)
    (c : GuardCall) : c.through (some t) s = c.apply t s := by
  cases c with
  | call r => rw [through, apply, call_eq_callDebug h]
  | _ => rfl

/-- What a call asks of a debug context, wherever that lies. -/
def ask {σ : Type} (focus : Focus σ) (universal : Universal σ) (s : σ) :
    GuardCall → Except CallError Seen × σ
  | call r =>
    let (a, s) := DebugContext.respond focus universal r s
    (a.map (.returned ∘ .ofReply), s)
  | openHandle u =>
    let (a, s) := DebugContext.openHandle focus universal u s
    ((a.map (.returned ∘ .handle)).mapError .check, s)
  | resolve h =>
    let (a, s) := DebugContext.resolve focus universal h s
    ((a.map (.returned ∘ .handle)).mapError .check, s)
  | closeHandle h =>
    let (a, s) := DebugContext.closeHandle focus universal h s
    ((a.map fun _ => .returned .nothing).mapError .check, s)
  | newGeneration =>
    let (generation, s) := focus.update DebugContext.newGeneration s
    (.ok (.number generation.toNat), s)
  | openHandleCount since => (.ok (.number ((focus.get s).openHandles since).length), s)

/-- The universal context of guard `i` for a call that starts in the state `s`. -/
def universal (s : Surface) (i : Nat) : GuardCall → Universal Surface
  | call _ => universalOf (callWithin (s.depth - 1)) i
  | _ => universalOfGuard i

/-- A call by pointer asks the debug context behind it, if there is one. -/
theorem through_eq (c : GuardCall) (p : Pointer) (s : Surface) :
    c.through p s = onGuard p c.failure (fun i s' => c.ask (context i) (c.universal s i) s') s := by
  cases hp : s.guard? p with
  | none =>
    rw [onGuard_of_none hp]
    cases c with
    | newGeneration =>
      simp only [through, Surface.newGeneration, onGuard_of_none hp, failure]
      rfl
    | _ =>
      simp only [through, callDebug, Surface.openHandle, Surface.resolve, Surface.closeHandle,
        Surface.openHandleCount, onGuard_of_none hp, failure]
  | some i =>
    cases c with
    | call r =>
      simp only [through, callDebug, onGuard, hp, ask, universal]
      generalize DebugContext.respond (context i) _ r s = q
      obtain ⟨a, s'⟩ := q
      cases a <;> rfl
    | openHandle u =>
      simp only [through, Surface.openHandle, onGuard, hp, ask, universal]
      generalize DebugContext.openHandle (context i) _ u s = q
      obtain ⟨a, s'⟩ := q
      cases a <;> rfl
    | resolve h =>
      simp only [through, Surface.resolve, onGuard, hp, ask, universal]
      generalize DebugContext.resolve (context i) _ h s = q
      obtain ⟨a, s'⟩ := q
      cases a <;> rfl
    | closeHandle h =>
      simp only [through, Surface.closeHandle, onGuard, hp, ask, universal]
      generalize DebugContext.closeHandle (context i) _ h s = q
      obtain ⟨a, s'⟩ := q
      cases a <;> rfl
    | newGeneration => simp only [through, Surface.newGeneration, onGuard, hp, ask]
    | openHandleCount since => simp only [through, Surface.openHandleCount, onGuard, hp, ask]

end GuardCall

/-! ### Runs -/

/-- A call of a process. -/
inductive ProcessCall where
  /-- A call that makes a table or binds one. -/
  | binding (c : BindingCall)
  /-- A call on the debug context behind a pointer. -/
  | guard (p : Pointer) (c : GuardCall)
  /-- A call through a table of any kind. -/
  | table (t : TableRef) (r : Request)
  | lastError (p : Pointer)
  | setPolicy (p : Pointer) (n : Nat)

namespace ProcessCall

/-- The state after a call. -/
def apply (s : Surface) : ProcessCall → Surface
  | binding c => c.apply s
  | guard p c => (c.through p s).2
  | table t r => (s.call t r).2
  | lastError p => (s.takeLastError p).2
  | setPolicy p n => (s.setPolicy p n).2

/-- The state after a call, which is not made any more once the process has stopped. -/
def step (s : Surface) (c : ProcessCall) : Surface := if s.stopped.isSome then s else c.apply s

/-- The state after some calls. -/
def run (s : Surface) (calls : List ProcessCall) : Surface := calls.foldl step s

end ProcessCall

end HandleGuard.Foreign.Surface
