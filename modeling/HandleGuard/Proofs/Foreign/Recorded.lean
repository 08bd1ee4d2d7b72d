import HandleGuard.Proofs.Foreign.Process

/-!
# Runs with their history

What happens during a call is more than what its caller sees: a call that is passed on from table to
table may fail at each of them. A recorded state has the history beside the state. Every call that
reaches a debug context is written down when it ends, and so is everything that changes a last error
or a policy. Nothing happens any more after the process has stopped.

Recording changes nothing else. To show that something holds of recorded states in all runs, it is
enough that it survives the few ways in which calls change a state (`Stable`).

* `Recorded.run`           a run with its history
* `Recorded.run_surface`   it is the run when the history is forgotten
* `Stable`                 what survives all calls on tables and debug contexts
-/

namespace HandleGuard.Foreign

/-- Something that happened. -/
inductive Event where
  /-- A call ended in the debug context behind `p`, perhaps with an error. -/
  | ended (p : Pointer) (error : Option CallError)
  /-- A call was refused that belongs to no debug context. -/
  | refused (code : ErrorCode)
  /-- The last error of `p` was asked for. -/
  | asked (p : Pointer)
  /-- The table `p` was filled for a new debug context. -/
  | filled (p : Pointer)
  /-- A policy for the debug context behind `p` was accepted. -/
  | policy (p : Pointer) (policy : InvalidPolicy)
deriving DecidableEq, Repr

/-- A state with all that happened so far, latest first. -/
structure Recorded where
  surface : Surface
  history : List Event

namespace Surface

variable {s s' : Surface}

theorem getElem?_guards_update {α : Type} (i j : Nat) (f : DebugContext → α × DebugContext)
    (s : Surface) : ((context i).update f s).2.guards[j]? = s.guards[j]?.map fun g =>
      if i = j then { g with context := (f g.context).2 } else g := by
  simp only [context, Array.getElem?_setIfInBounds]
  by_cases hij : i = j
  · subst hij
    cases hg : s.guards[i]? with
    | none =>
      have hsize := Array.getElem?_eq_none_iff.mp hg
      rw [if_pos rfl, if_neg (by omega)]
      rfl
    | some g =>
      obtain ⟨hlt, -⟩ := Array.getElem?_eq_some_iff.mp hg
      rw [if_pos rfl, if_pos hlt]
      simp
  · simp [hij]

/-- A failed call is noted on its guard, and may stop the process. -/
theorem failCall_eq (s : Surface) (i : Nat) (e : CallError) : ∃ stopped, s.failCall i e =
    { s with guards := s.guards.modify i ({ · with lastError := some (.ofCallError e) }), stopped } := by
  unfold failCall
  dsimp only
  split
  · split <;> exact ⟨_, rfl⟩
  · exact ⟨_, rfl⟩

theorem sameTables_failCall (s : Surface) (i : Nat) (e : CallError) :
    SameTables s (s.failCall i e) := by
  obtain ⟨stopped, hfail⟩ := failCall_eq s i e
  rw [hfail]
  exact ⟨rfl, rfl⟩

end Surface

namespace Recorded

open Surface

/-! ### Recorded calls -/

/-- Does what happens to the state alone. -/
def lift {α : Type} (f : Surface → α × Surface) (w : Recorded) : α × Recorded :=
  let (a, surface) := f w.surface
  (a, { w with surface })

/-- Writes an event down while the process runs. -/
def note (e : Event) (w : Recorded) : Recorded :=
  if w.surface.stopped.isSome then w else { w with history := e :: w.history }

/-- The debug context of guard `i`. -/
def context (i : Nat) : Focus Recorded where
  update f := lift ((Surface.context i).update f)

/-- Notes that a pointer led to no usable table. -/
def badTable (w : Recorded) : Recorded :=
  let w := w.note (.refused .badTable)
  { w with surface := w.surface.badTable }

/-- Notes a failed call on guard `i` behind `p`. -/
def failCall (p : Pointer) (i : Nat) (e : CallError) (w : Recorded) : Recorded :=
  let w := w.note (.ended p (some e))
  { w with surface := w.surface.failCall i e }

/-- Runs `f` on the debug context behind a pointer, and notes how it ends. -/
def onGuard {α : Type} (p : Pointer) (onFail : α)
    (f : Nat → Recorded → Except CallError α × Recorded) (w : Recorded) : α × Recorded :=
  match w.surface.guard? p with
  | none => (onFail, w.badTable)
  | some i =>
    match f i w with
    | (.ok a, w) => (a, w.note (.ended p none))
    | (.error e, w) => (onFail, w.failCall p i e)

/-- What runs when a table is called. -/
abbrev Caller := TableRef → Request → Recorded → Returned × Recorded

/-- The universal context of guard `i`, as it answers through its table. -/
def universalOf (call : Caller) (i : Nat) : Universal Recorded := fun r w =>
  match w.surface.guards[i]? with
  | none => (.error (missingSlot "" r.operation), w)
  | some g =>
    if w.surface.has g.universal r.operation then
      let (returned, w) := call g.universal r w
      (returned.read r.operation, w)
    else (.error (missingSlot g.universalName r.operation), w)

/-- Runs the debug function for a call. -/
def callGuard (call : Caller) (p : Pointer) (r : Request) : Recorded → Returned × Recorded :=
  onGuard p (.failure r.operation) fun i w =>
    let (a, w) := DebugContext.respond (context i) (universalOf call i) r w
    (a.map Returned.ofReply, w)

/-- Runs the function of table `t` for a call, through at most `depth` tables. -/
def callWithin : Nat → Caller
  | 0, _, r, w => (.failure r.operation, { w with surface := w.surface.stop .endlessForwarding })
  | depth + 1, t, r, w =>
    match w.surface.tables[t]?.map OpTable.functions with
    | some .debug => callGuard (callWithin depth) (some t) r w
    | some (.host _) => lift (callHost t r) w
    | _ => (.failure r.operation, w)

/-- Runs the function of table `t` for a call. -/
def call (t : TableRef) (r : Request) (w : Recorded) : Returned × Recorded :=
  callWithin w.surface.depth t r w

/-- The universal context of guard `i` for a call that starts in the state `w`. -/
def universal (w : Recorded) (i : Nat) : GuardCall → Universal Recorded
  | .call _ => universalOf (callWithin (w.surface.depth - 1)) i
  | _ => fun r w => universalOf call i r w

/-- A call by the pointer `p`. -/
def through (p : Pointer) (c : GuardCall) (w : Recorded) : Seen × Recorded :=
  onGuard p c.failure (fun i w' => c.ask (context i) (w.universal i c) w') w

/-- What a call that makes or binds a table is written down as. Whether it was refused, the caller
sees, and it can tell why: a refusal without a usable table is about that. -/
def bindingEvents (s : Surface) : BindingCall → List Event
  | .newHost .. | .newMemory => []
  | .bind u =>
    match (s.bind u).1 with
    | some t => if t < s.tables.size then [] else [.filled (some t)]
    | none => [.refused (if (s.universal? u).isSome then .configuration else .badTable)]
  | .initTable p u =>
    match (s.initTable p u).1 with
    | .done => [.filled p]
    | .refused => [.refused .badTable]
  | .install p =>
    match (s.install p).1 with
    | .done => []
    | .refused => [.refused (if (s.guard? p).isSome then .configuration else .badTable)]

/-- The recorded state after a call. -/
def apply (w : Recorded) : ProcessCall → Recorded
  | .binding c => ⟨c.apply w.surface, bindingEvents w.surface c ++ w.history⟩
  | .guard p c => (w.through p c).2
  | .table t r => (w.call t r).2
  | .lastError p => ⟨(w.surface.takeLastError p).2, .asked p :: w.history⟩
  | .setPolicy p n =>
    match w.surface.setPolicy p n, policy? n with
    | (.done, s), some policy => ⟨s, .policy p policy :: w.history⟩
    | (_, s), _ => ⟨s, w.history⟩

/-- The recorded state after a call, which is not made any more once the process has stopped. -/
def step (w : Recorded) (c : ProcessCall) : Recorded :=
  if w.surface.stopped.isSome then w else w.apply c

/-- The recorded state of a new process after some calls. -/
def run (config : Config) (calls : List ProcessCall) : Recorded :=
  calls.foldl step ⟨.new config, []⟩

@[simp] theorem note_surface (e : Event) (w : Recorded) : (w.note e).surface = w.surface := by
  unfold note
  split <;> rfl

@[simp] theorem badTable_surface (w : Recorded) : w.badTable.surface = w.surface.badTable := by
  rw [badTable, note_surface]

@[simp] theorem failCall_surface (p : Pointer) (i : Nat) (e : CallError) (w : Recorded) :
    (w.failCall p i e).surface = w.surface.failCall i e := by
  rw [failCall, note_surface]

/-! ### What survives calls -/

/-- A property that survives every way in which calls on tables and debug contexts change a recorded
state. -/
structure Stable (P : Recorded → Prop) : Prop where
  update : ∀ {α : Type} (i : Nat) (f : DebugContext → α × DebugContext) {w : Recorded}, P w →
    P ((context i).update f w).2
  hosts : ∀ {w : Recorded} (hosts : Array Host), P w →
    P { w with surface := { w.surface with hosts } }
  endless : ∀ {w : Recorded}, P w →
    P { w with surface := w.surface.stop .endlessForwarding }
  badTable : ∀ {w : Recorded}, P w → P w.badTable
  done : ∀ {w : Recorded} {p i}, w.surface.guard? p = some i → P w → P (w.note (.ended p none))
  failed : ∀ {w : Recorded} {p i} (e : CallError), w.surface.guard? p = some i → P w →
    P (w.failCall p i e)

/-- A recorded state beside the state that it records, while the tables are as in `s₀`. -/
structure Records (P : Recorded → Prop) (s₀ s : Surface) (w : Recorded) : Prop where
  surface : w.surface = s
  tables : SameTables s₀ s
  holds : P w

/-- `f'` does what `f` does and keeps `P`, and the tables are left alone. -/
def Mirrors {α : Type} (P : Recorded → Prop) (f : Surface → α × Surface)
    (f' : Recorded → α × Recorded) : Prop :=
  ∀ {s₀ s w}, Records P s₀ s w → (f s).1 = (f' w).1 ∧ Records P s₀ (f s).2 (f' w).2

namespace Stable

variable {P : Recorded → Prop} (hP : Stable P)

include hP

theorem mirrors_update {α : Type} (i : Nat) (f : DebugContext → α × DebugContext) :
    Mirrors P ((Surface.context i).update f) ((context i).update f) := by
  rintro s₀ s w ⟨rfl, htables, hw⟩
  exact ⟨rfl, rfl, htables.trans ⟨rfl, rfl⟩, hP.update i f hw⟩

theorem mirrors_callHost (t : TableRef) (r : Request) : Mirrors P (callHost t r) (lift (callHost t r)) := by
  rintro s₀ s w ⟨rfl, htables, hw⟩
  refine ⟨rfl, rfl, htables.trans ?_, ?_⟩
  · unfold callHost
    split
    · split <;> exact ⟨rfl, rfl⟩
    · exact ⟨rfl, rfl⟩
  · simp only [lift, callHost]
    split
    · split
      · exact hP.hosts _ hw
      · exact hw
    · exact hw

omit hP in
theorem mirrors_universalOf {call : Surface.Caller} {call' : Caller}
    (hcall : ∀ t r, Mirrors P (call t r) (call' t r)) (i : Nat) (r : Request) :
    Mirrors P (Surface.universalOf call i r) (universalOf call' i r) := by
  intro s₀ s w h
  simp only [Surface.universalOf, universalOf, h.surface]
  cases s.guards[i]? with
  | none => exact ⟨rfl, h⟩
  | some g =>
    dsimp only
    split
    · obtain ⟨ha, hw⟩ := hcall g.universal r h
      exact ⟨congrArg (Returned.read r.operation) ha, hw⟩
    · exact ⟨rfl, h⟩

/-- A debug context with recorded calls answers as the one without. -/
theorem alike {call : Surface.Caller} {call' : Caller}
    (hcall : ∀ t r, Mirrors P (call t r) (call' t r)) (i : Nat) (s₀ : Surface) :
    DebugContext.Alike (fun _ a a' => a = a') (Surface.context i) (Surface.universalOf call i)
      (context i) (universalOf call' i) (Records P s₀) where
  conveys := .eq
  hook h := congrArg DebugContext.hook (hP.mirrors_update i (fun d => (d, d)) h).1
  table op _ _ h := hP.mirrors_update i (DebugContext.onTable op) h
  record e _ _ h := (hP.mirrors_update i (fun d => ((), d.record e)) h).2
  noteHook e _ _ h := (hP.mirrors_update i (fun d => ((), d.noteHook e)) h).2
  noteCall := by
    rintro op a _ rfl s w h
    exact (hP.mirrors_update i (fun d => ((), d.noteHook _)) h).2
  universal r _ _ h := mirrors_universalOf hcall i r h

theorem mirrors_onGuard {α : Type} (p : Pointer) (onFail : α)
    {f : Nat → Surface → Except CallError α × Surface}
    {f' : Nat → Recorded → Except CallError α × Recorded} (hf : ∀ i, Mirrors P (f i) (f' i)) :
    Mirrors P (Surface.onGuard p onFail f) (onGuard p onFail f') := by
  intro s₀ s w h
  simp only [Surface.onGuard, onGuard, h.surface]
  cases hp : s.guard? p with
  | none =>
    exact ⟨rfl, by rw [badTable_surface, h.surface], h.tables.trans ⟨rfl, rfl⟩, hP.badTable h.holds⟩
  | some i =>
    have hcalled := hf i h
    dsimp only
    generalize f i s = q at hcalled
    generalize f' i w = q' at hcalled
    obtain ⟨a, s'⟩ := q
    obtain ⟨a', w'⟩ := q'
    obtain ⟨rfl, hsurface, htables, hw'⟩ := hcalled
    -- The pointer leads to the same context as before the call.
    have hp' : w'.surface.guard? p = some i := by
      rw [hsurface, htables.guard?_eq, ← h.tables.guard?_eq, hp]
    cases a with
    | ok a => exact ⟨rfl, by rw [note_surface, hsurface], htables, hP.done hp' hw'⟩
    | error e =>
      exact ⟨rfl, by rw [failCall_surface, hsurface], htables.trans (sameTables_failCall s' i e),
        hP.failed e hp' hw'⟩

theorem mirrors_callGuard {call : Surface.Caller} {call' : Caller}
    (hcall : ∀ t r, Mirrors P (call t r) (call' t r)) (t : TableRef) (r : Request) :
    Mirrors P (Surface.callGuard call t r) (callGuard call' (some t) r) := by
  refine hP.mirrors_onGuard (some t) _ fun i s₀ s w h => ?_
  obtain ⟨ha, hw⟩ := (hP.alike hcall i s₀).respond h r
  exact ⟨congrArg (Except.map Returned.ofReply) ha, hw⟩

/-- The induction is on the number of tables that the call may pass. -/
theorem mirrors_callWithin (depth : Nat) (t : TableRef) (r : Request) :
    Mirrors P (Surface.callWithin depth t r) (callWithin depth t r) := by
  induction depth generalizing t r with
  | zero =>
    rintro s₀ s w ⟨rfl, htables, hw⟩
    exact ⟨rfl, rfl, htables.trans ⟨rfl, rfl⟩, hP.endless hw⟩
  | succ depth ih =>
    intro s₀ s w h
    simp only [Surface.callWithin, callWithin, h.surface]
    cases s.tables[t]?.map OpTable.functions with
    | none => exact ⟨rfl, h⟩
    | some functions =>
      cases functions with
      | blank => exact ⟨rfl, h⟩
      | host _ => exact hP.mirrors_callHost t r h
      | debug => exact hP.mirrors_callGuard ih t r h

theorem mirrors_call (t : TableRef) (r : Request) : Mirrors P (Surface.call t r) (call t r) := by
  intro s₀ s w h
  simp only [Surface.call, call, h.surface]
  exact hP.mirrors_callWithin _ t r h

theorem mirrors_ask {universal : Universal Surface} {universal' : Universal Recorded} {i : Nat}
    {s₀ : Surface} (halike : DebugContext.Alike (fun _ a a' => a = a') (Surface.context i)
      universal (context i) universal' (Records P s₀)) (c : GuardCall) {s : Surface}
    {w : Recorded} (h : Records P s₀ s w) :
    (c.ask (Surface.context i) universal s).1 = (c.ask (context i) universal' w).1 ∧
      Records P s₀ (c.ask (Surface.context i) universal s).2
        (c.ask (context i) universal' w).2 := by
  cases c with
  | call r =>
    obtain ⟨ha, hw⟩ := halike.respond h r
    exact ⟨by simp only [GuardCall.ask, ha], hw⟩
  | openHandle u =>
    obtain ⟨ha, hw⟩ := halike.openHandle h u
    exact ⟨by simp only [GuardCall.ask, ha], hw⟩
  | resolve k =>
    obtain ⟨ha, hw⟩ := halike.resolve h k
    exact ⟨by simp only [GuardCall.ask, ha], hw⟩
  | closeHandle k =>
    obtain ⟨ha, hw⟩ := halike.closeHandle h k
    exact ⟨by simp only [GuardCall.ask, ha], hw⟩
  | newGeneration =>
    obtain ⟨hn, hw⟩ := hP.mirrors_update i DebugContext.newGeneration h
    exact ⟨by simp only [GuardCall.ask, hn], hw⟩
  | openHandleCount since =>
    have hd : (Surface.context i).get s = (context i).get w :=
      (hP.mirrors_update i (fun d => (d, d)) h).1
    exact ⟨by simp only [GuardCall.ask, hd], h⟩

theorem alike_universal (c : GuardCall) (i : Nat) (w : Recorded) (s₀ : Surface) :
    DebugContext.Alike (fun _ a a' => a = a') (Surface.context i) (c.universal w.surface i)
      (context i) (w.universal i c) (Records P s₀) := by
  cases c with
  | call r => exact hP.alike (hP.mirrors_callWithin _) i s₀
  | _ => exact hP.alike hP.mirrors_call i s₀

theorem mirrors_through (p : Pointer) (c : GuardCall) : Mirrors P (c.through p) (through p c) := by
  rintro s₀ s w h
  obtain rfl := h.surface
  simp only [GuardCall.through_eq]
  exact hP.mirrors_onGuard p _
    (fun i s₀ s' w' h' => hP.mirrors_ask (hP.alike_universal c i w s₀) c h') h

end Stable

/-! ### Runs -/

theorem stable_true : Stable fun _ => True := ⟨by simp, by simp, by simp, by simp, by simp, by simp⟩

/-- What survives all calls on tables and debug contexts is to be shown for the others only. -/
theorem Stable.apply {P : Recorded → Prop} (hP : Stable P) {w : Recorded} (hw : P w)
    (hbinding : ∀ c, P (w.apply (.binding c))) (hasked : ∀ p, P (w.apply (.lastError p)))
    (hpolicy : ∀ p n, P (w.apply (.setPolicy p n))) (c : ProcessCall) : P (w.apply c) := by
  have hrecords : Records P w.surface w.surface w := ⟨rfl, ⟨rfl, rfl⟩, hw⟩
  cases c with
  | binding c => exact hbinding c
  | guard p c => exact (hP.mirrors_through p c hrecords).2.holds
  | table t r => exact (hP.mirrors_call t r hrecords).2.holds
  | lastError p => exact hasked p
  | setPolicy p n => exact hpolicy p n

theorem apply_surface (w : Recorded) (c : ProcessCall) :
    (w.apply c).surface = c.apply w.surface := by
  have hrecords : Records (fun _ => True) w.surface w.surface w := ⟨rfl, ⟨rfl, rfl⟩, trivial⟩
  cases c with
  | binding c => rfl
  | guard p c => exact (stable_true.mirrors_through p c hrecords).2.surface
  | table t r => exact (stable_true.mirrors_call t r hrecords).2.surface
  | lastError p => rfl
  | setPolicy p n =>
    rw [apply, ProcessCall.apply]
    split <;> simp_all

theorem step_surface (w : Recorded) (c : ProcessCall) :
    (w.step c).surface = c.step w.surface := by
  unfold step ProcessCall.step
  split
  · rfl
  · exact w.apply_surface c

/-- A run is the same with its history and without. -/
theorem run_surface (config : Config) (calls : List ProcessCall) :
    (run config calls).surface = ProcessCall.run (.new config) calls := by
  have hfold : ∀ w : Recorded, (calls.foldl step w).surface = ProcessCall.run w.surface calls := by
    induction calls with
    | nil => exact fun _ => rfl
    | cons c calls ih =>
      intro w
      rw [List.foldl_cons, ih, step_surface]
      rfl
  exact hfold _

end Recorded

end HandleGuard.Foreign
