import HandleGuard.Foreign.Calls
import HandleGuard.Proofs.Context.Run
import HandleGuard.Proofs.Diagnostic.Log
import HandleGuard.Proofs.Foreign.Bindings
import HandleGuard.Proofs.Store.References
import HandleGuard.Replay

/-!
# The foreign interface agrees with the debug context behind it

A foreign caller reaches a debug context through a table, and the debug context reaches the store of
a host through another one. On each way an error shrinks to a word of the answer, so the context may
take a failure of the store for another failure, or for an answer. Still the caller sees what it
would see of the context alone, and everything that is kept is the same: the handle table, the log,
and the store with its count of calls.

* `Understood`                     what comes of an answer that went through a host's table
* `Surface.Fronts`                 a debug table before the table of a host, beside a session
* `Surface.Fronts.step`            one call on the debug table
* `Surface.foreign_calls_agree`    any run of calls
-/

namespace HandleGuard

open DebugContext

namespace Foreign

/-! ### Answers of a host -/

/-- What a debug context understands of the answer `a'` when it comes through the table of a host:
the same, or for a failure what the word for it reads as. -/
def Understood (op : Operation) (a a' : Except CallError Reply) : Prop :=
  a = a' ∨ ((∃ code text, a' = .error (.call code text)) ∧ a = (Returned.failure op).read op)

theorem understood_conveys : Conveys Understood where
  handle_left := by
    rintro op u a (rfl | ⟨-, h⟩)
    · rfl
    · cases op <;> cases h
  handle_right := by
    rintro op u a (rfl | ⟨⟨code, text, h⟩, -⟩)
    · rfl
    · cases h
  handle := fun _ _ => .inl rfl
  closed := .inl rfl
  check := fun _ _ => .inl rfl

theorem Understood.check {op : Operation} {a : Except CallError Reply} {e : DebugError}
    (h : Understood op a (.error (.check e))) : a = .error (.check e) := by
  obtain rfl | ⟨⟨code, text, h⟩, -⟩ := h
  · rfl
  · cases h

/-- Both answers are the same word. -/
theorem Understood.ofAnswer_eq {op : Operation} {a a' : Except CallError Reply}
    (h : Understood op a a') : Returned.ofAnswer op a = Returned.ofAnswer op a' := by
  obtain rfl | ⟨⟨code, text, rfl⟩, rfl⟩ := h
  · rfl
  · cases op <;> rfl

/-- A host that refuses nothing answers as its store does. -/
theorem Host.respond_understood {st : ObjectStore} (hst : st.WellFormed) (r : Request) :
    (Host.respond ⟨st, .none⟩ r).2 = ⟨(st.respond r).2, .none⟩ ∧
      Understood r.operation ((Host.respond ⟨st, .none⟩ r).1.read r.operation) (st.respond r).1 ∧
      (st.respond r).2.WellFormed := by
  have hrefuses : Refusals.none.refuses r = false := by cases r <;> rfl
  have hrespond : Host.respond ⟨st, .none⟩ r =
      (.ofAnswer r.operation (st.respond r).1, ⟨(st.respond r).2, .none⟩) := by
    rw [Host.respond, if_neg (by rw [hrefuses]; exact Bool.false_ne_true)]
  rw [hrespond]
  obtain ⟨hst', hnull⟩ := ObjectStore.respond_wellFormed hst r
  refine ⟨rfl, ?_, hst'⟩
  cases hanswer : (st.respond r).1 with
  | ok reply =>
    -- Only null would read as a failure.
    rw [hanswer] at hnull
    exact .inl (Returned.read_ofReply fun h => hnull (congrArg _ h))
  | error e =>
    obtain ⟨code, text, rfl⟩ := ObjectStore.error_of_respond hanswer
    exact .inr ⟨⟨code, text, rfl⟩, rfl⟩

end Foreign

/-! ### Contexts that fail alike -/

/-- Two contexts without a hook that have the same table and the same log, each under its own
identity. -/
structure DebugContext.Twins (d d' : DebugContext) : Prop where
  table : d.table = d'.table
  log : DiagnosticLog.Twins d'.id d.log d'.log
  hook : d.hook = none
  hook' : d'.hook = none

namespace DebugContext.Twins

variable {d d' : DebugContext} (h : d.Twins d')

include h

theorem onTable {α : Type} (op : HandleTable → α × HandleTable) :
    (d.onTable op).1 = (d'.onTable op).1 ∧ (d.onTable op).2.Twins (d'.onTable op).2 := by
  unfold DebugContext.onTable
  rw [h.table]
  exact ⟨rfl, rfl, h.log, h.hook, h.hook'⟩

theorem record (e : DebugError) : (d.record e).Twins (d'.record e) where
  table := by rw [record_table, record_table, h.table]
  log := by
    rw [record_log, record_log, record_id]
    exact h.log.push (.ofError e d.id)
  hook := by rw [record_hook, h.hook]
  hook' := by rw [record_hook, h.hook']

theorem noteHook (e e' : HookEvent) : (d.noteHook e).Twins (d'.noteHook e') :=
  ⟨h.table, h.log, h.hook, h.hook'⟩

end DebugContext.Twins

namespace Foreign.Surface

/-! ### A debug table before the table of a host -/

/-- Where a call on a debug table goes. -/
structure Route where
  /-- The table that is called. -/
  table : TableRef
  /-- The debug context behind it. -/
  guard : Nat
  /-- The table that the debug context calls. -/
  universal : TableRef
  /-- The host behind that. -/
  host : Nat
deriving DecidableEq, Repr

/-- A debug table under the report policy stands before the full table of a host that refuses
nothing, and the two are as in the session `c`: the handle table, the log, and the store with its
count of calls. -/
structure Fronts (route : Route) (s : Surface) (c : Session) : Prop where
  guard_eq : s.guard? (some route.table) = some route.guard
  debug : s.tables[route.table]?.map OpTable.functions = some .debug
  guard : ∃ g, s.guards[route.guard]? = some g ∧ g.universal = route.universal ∧
    g.policy = .report ∧ g.context.Twins c.1
  universal : (s.tables[route.universal]?.map fun table => (table.functions, table.backing)) =
    some (.host [], .state route.host)
  host : s.hosts[route.host]? = some ⟨c.2, .none⟩
  store : c.2.WellFormed
  running : s.stopped = none

theorem context_update {s : Surface} {i : Nat} {g : Guard} (hg : s.guards[i]? = some g) {α : Type}
    (f : DebugContext → α × DebugContext) :
    (context i).update f s = ((f g.context).1,
      { s with guards := s.guards.setIfInBounds i { g with context := (f g.context).2 } }) := by
  simp only [context, hg, Option.getD_some]

theorem context_modify {s : Surface} {i : Nat} {g : Guard} (hg : s.guards[i]? = some g)
    (f : DebugContext → DebugContext) :
    (context i).modify f s =
      { s with guards := s.guards.setIfInBounds i { g with context := f g.context } } := by
  unfold Focus.modify
  rw [context_update hg]

theorem context_get {s : Surface} {i : Nat} {g : Guard} (hg : s.guards[i]? = some g) :
    (context i).get s = g.context := by
  unfold Focus.get
  rw [context_update hg]

/-- A table of a host is called directly, whatever comes before it. -/
def CallsHosts (call : Caller) (t : TableRef) : Prop :=
  ∀ r s, (∃ missing, s.tables[t]?.map OpTable.functions = some (.host missing)) →
    call t r s = callHost t r s

theorem callsHosts_callWithin (n : Nat) (t : TableRef) : CallsHosts (callWithin (n + 1)) t := by
  rintro r s ⟨missing, ht⟩
  rw [callWithin, ht]

/-- No call is stopped before its second table. -/
theorem exists_depth_eq (s : Surface) : ∃ n, s.depth = n + 2 := by
  have hfold (n : Nat) : ∀ gs : List Guard,
      n ≤ gs.foldl (fun n g => n + g.context.table.openCount) n := by
    intro gs
    induction gs generalizing n with
    | nil => exact Nat.le_refl n
    | cons g gs ih => exact Nat.le_trans (Nat.le_add_right n _) (ih _)
  have hdepth : s.tables.size + 2 ≤ s.depth := by
    unfold depth
    rw [← Array.foldl_toList]
    exact hfold _ _
  exact ⟨s.depth - 2, by omega⟩

theorem callsHosts_call (t : TableRef) : CallsHosts call t := by
  rintro r s ht
  obtain ⟨n, hn⟩ := s.exists_depth_eq
  rw [call, hn]
  exact callsHosts_callWithin (n + 1) t r s ht

namespace Fronts

variable {route : Route} {s : Surface} {c : Session} (h : Fronts route s c)

include h

/-- The guards may change, as long as the context behind the table does as the one of the session.
-/
theorem withGuards {guards : Array Guard} {d : DebugContext} {g : Guard}
    (hg : guards[route.guard]? = some g) (hu : g.universal = route.universal)
    (hp : g.policy = .report) (hd : g.context.Twins d) :
    Fronts route { s with guards } (d, c.2) :=
  ⟨h.guard_eq, h.debug, ⟨g, hg, hu, hp, hd⟩, h.universal, h.host, h.store, h.running⟩

theorem context_update {α : Type} {f : DebugContext → α × DebugContext}
    (hf : ∀ {d}, d.Twins c.1 → (f d).1 = (f c.1).1 ∧ (f d).2.Twins (f c.1).2) :
    ((context route.guard).update f s).1 = (f c.1).1 ∧
      Fronts route ((context route.guard).update f s).2 ((f c.1).2, c.2) := by
  obtain ⟨g, hg, hu, hp, hd⟩ := h.guard
  obtain ⟨hlt, -⟩ := Array.getElem?_eq_some_iff.mp hg
  rw [Surface.context_update hg]
  exact ⟨(hf hd).1, h.withGuards (Array.getElem?_setIfInBounds_self_of_lt hlt) hu hp (hf hd).2⟩

theorem context_modify (f f' : DebugContext → DebugContext)
    (hf : ∀ {d}, d.Twins c.1 → (f d).Twins (f' c.1)) :
    Fronts route ((context route.guard).modify f s) (f' c.1, c.2) := by
  obtain ⟨g, hg, hu, hp, hd⟩ := h.guard
  obtain ⟨hlt, -⟩ := Array.getElem?_eq_some_iff.mp hg
  rw [Surface.context_modify hg]
  exact h.withGuards (Array.getElem?_setIfInBounds_self_of_lt hlt) hu hp (hf hd)

theorem functions : s.tables[route.universal]?.map OpTable.functions = some (.host []) := by
  have huniversal := congrArg (Option.map Prod.fst) h.universal
  rwa [Option.map_map] at huniversal

theorem backing : s.tables[route.universal]?.map OpTable.backing = some (.state route.host) := by
  have huniversal := congrArg (Option.map Prod.snd) h.universal
  rwa [Option.map_map] at huniversal

/-- The universal context of the guard is the store of the session, as it is understood. -/
theorem universalOf {call : Caller} (hcall : CallsHosts call route.universal) (r : Request) :
    Understood r.operation (Surface.universalOf call route.guard r s).1 (c.2.respond r).1 ∧
      Fronts route (Surface.universalOf call route.guard r s).2 (c.1, (c.2.respond r).2) := by
  obtain ⟨g, hg, hu, hp, hd⟩ := h.guard
  obtain ⟨hhost, hanswer, hstore⟩ := Host.respond_understood h.store r
  have hhas : s.has route.universal r.operation = true := by
    have hfunctions := h.functions
    unfold has
    cases htable : s.tables[route.universal]? with
    | none => rw [htable] at hfunctions; cases hfunctions
    | some table =>
      rw [htable, Option.map_some, Option.some.injEq] at hfunctions
      simp only [hfunctions, Functions.has]
      rfl
  have hcalled : Surface.universalOf call route.guard r s =
      ((Host.respond ⟨c.2, .none⟩ r).1.read r.operation,
        { s with hosts := s.hosts.setIfInBounds route.host ⟨(c.2.respond r).2, .none⟩ }) := by
    simp only [Surface.universalOf, hg, hu, hhas, if_true,
      hcall r s ⟨[], h.functions⟩, callHost, h.backing, h.host, hhost]
  rw [hcalled]
  refine ⟨hanswer, h.guard_eq, h.debug, ⟨g, hg, hu, hp, hd⟩, h.universal, ?_, hstore, h.running⟩
  obtain ⟨hlt, -⟩ := Array.getElem?_eq_some_iff.mp h.host
  exact Array.getElem?_setIfInBounds_self_of_lt hlt

end Fronts

/-- The debug context behind the table and the one of the session answer alike. -/
theorem alike_of_callsHosts {route : Route} {call : Caller}
    (hcall : CallsHosts call route.universal) :
    Alike Understood (context route.guard) (universalOf call route.guard)
      Focus.first Session.universal (Fronts route) where
  conveys := understood_conveys
  hook := by
    rintro s c h
    obtain ⟨g, hg, -, -, hd⟩ := h.guard
    rw [context_get hg]
    exact hd.hook.trans hd.hook'.symm
  table := by
    rintro op s c h
    exact h.context_update fun hd => hd.onTable op
  record := by
    rintro e s c h
    exact h.context_modify (·.record e) (·.record e) fun hd => hd.record e
  noteHook := by
    rintro e s c h
    exact h.context_modify (·.noteHook e) (·.noteHook e) fun hd => hd.noteHook e e
  noteCall := by
    rintro _ _ _ - s c h
    exact h.context_modify (·.noteHook _) (·.noteHook _) fun hd => hd.noteHook _ _
  universal := by
    rintro r s c h
    exact h.universalOf hcall r

/-! ### Calls of a foreign caller -/

/-- A call of a foreign caller on a debug table. -/
inductive GuardCall where
  | call (r : Request)
  | openHandle (u : Handle)
  | resolve (h : Handle)
  | closeHandle (h : Handle)
  | newGeneration
  | openHandleCount (since : UInt64)
deriving DecidableEq, Repr

/-- What a foreign caller sees of a call. -/
inductive Seen where
  | returned (r : Returned)
  | number (n : Nat)
deriving DecidableEq, Repr

namespace GuardCall

/-- What the caller sees of an answer. -/
def seen : GuardCall → Except CallError Seen → Seen
  | _, .ok a => a
  | call r, .error _ => .returned (.failure r.operation)
  | openHandle _, .error _ | resolve _, .error _ => .returned (.handle .null)
  | closeHandle _, .error _ => .returned .nothing
  | newGeneration, .error _ | openHandleCount _, .error _ => .number 0

/-- The call on debug table `p`, through the foreign interface. -/
def apply (p : TableRef) (s : Surface) : GuardCall → Seen × Surface
  | call r =>
    let (a, s) := s.call p r
    (.returned a, s)
  | openHandle u =>
    let (a, s) := s.openHandle (some p) u
    (.returned (.handle a), s)
  | resolve h =>
    let (a, s) := s.resolve (some p) h
    (.returned (.handle a), s)
  | closeHandle h => (.returned .nothing, s.closeHandle (some p) h)
  | newGeneration =>
    let (generation, s) := s.newGeneration (some p)
    (.number generation.toNat, s)
  | openHandleCount since =>
    let (n, s) := s.openHandleCount (some p) since
    (.number n, s)

/-- The same on the debug context of a session, by itself. -/
def method (c : Session) : GuardCall → Except CallError Seen × Session
  | call r =>
    let (a, c) := Session.respond r c
    (a.map (.returned ∘ Returned.ofReply), c)
  | openHandle u =>
    let (a, c) := DebugContext.openHandle .first Session.universal u c
    ((a.map (.returned ∘ .handle)).mapError .check, c)
  | resolve h =>
    let (a, c) := c.resolve h
    ((a.map (.returned ∘ .handle)).mapError .check, c)
  | closeHandle h =>
    let (a, c) := c.closeHandle h
    ((a.map fun _ => .returned .nothing).mapError .check, c)
  | newGeneration =>
    let (generation, d) := c.1.newGeneration
    (.ok (.number generation.toNat), d, c.2)
  | openHandleCount since => (.ok (.number (c.1.openHandles since).length), c)

end GuardCall

namespace Fronts

variable {route : Route} {s : Surface} {c : Session} (h : Fronts route s c)

include h

/-- A failed call is noted, and nothing else comes of it. -/
theorem failCall (e : CallError) :
    Fronts route (s.failCall route.guard e) c ∧
      (takeLastError (some route.table) (s.failCall route.guard e)).1 =
        (ErrorCode.ofCallError e).number := by
  obtain ⟨g, hg, hu, hp, hd⟩ := h.guard
  have hnoted : (s.modifyGuard route.guard ({ · with lastError := some (.ofCallError e) })).guards[
      route.guard]? = some { g with lastError := some (.ofCallError e) } := by
    rw [modifyGuard, Array.getElem?_modify, if_pos rfl, hg]
    rfl
  have hfail : s.failCall route.guard e =
      s.modifyGuard route.guard ({ · with lastError := some (.ofCallError e) }) := by
    unfold Surface.failCall
    cases e with
    | check e => simp only [hnoted, hp]
    | call code text => rfl
  rw [hfail]
  have hfronts : Fronts route
      (s.modifyGuard route.guard ({ · with lastError := some (.ofCallError e) })) c :=
    h.withGuards hnoted hu hp hd
  refine ⟨hfronts, ?_⟩
  simp only [takeLastError, hfronts.guard_eq, hnoted]
  rfl

/-- A function on the debug context behind the table that ends as the method does. -/
private theorem onGuard {α : Type} {f : Nat → Surface → Except CallError α × Surface} {c' : Session}
    {onFail : α} (view : α → Seen) {v : Seen} (hf : Fronts route (f route.guard s).2 c')
    (hview : view ((f route.guard s).1.toOption.getD onFail) = v)
    {a : Except CallError Seen}
    (hcheck : ∀ e, a = .error (.check e) → (f route.guard s).1 = .error (.check e)) :
    view (Surface.onGuard (some route.table) onFail f s).1 = v ∧
      Fronts route (Surface.onGuard (some route.table) onFail f s).2 c' ∧
      ∀ e, a = .error (.check e) →
        (takeLastError (some route.table) (Surface.onGuard (some route.table) onFail f s).2).1 =
          (ErrorCode.ofDebugError e).number := by
  simp only [Surface.onGuard, h.guard_eq]
  generalize f route.guard s = p at hf hview hcheck
  obtain ⟨answer, s'⟩ := p
  cases answer with
  | ok x =>
    refine ⟨hview, hf, ?_⟩
    intro e he
    cases hcheck e he
  | error e =>
    obtain ⟨hfronts, hlast⟩ := hf.failCall e
    refine ⟨hview, hfronts, ?_⟩
    intro e' he
    cases hcheck e' he
    exact hlast

/-- A call on the table asks the debug context behind it, which has its calls passed on. -/
private theorem exists_call_eq (r : Request) :
    ∃ n, s.call route.table r = callGuard (callWithin (n + 1)) route.table r s := by
  obtain ⟨n, hn⟩ := s.exists_depth_eq
  refine ⟨n, ?_⟩
  rw [call, hn, callWithin, h.debug]

omit h in
private theorem eq_error_of_mapError {α : Type} {answer : Except DebugError Handle}
    {view : Handle → α} {e : DebugError}
    (he : (answer.map view).mapError CallError.check = .error (.check e)) : answer = .error e := by
  cases answer <;> cases he
  rfl

/-- One call: the caller sees what the method answers, and both go on in related states. -/
theorem step (call : GuardCall) :
    (call.apply route.table s).1 = call.seen (call.method c).1 ∧
      Fronts route (call.apply route.table s).2 (call.method c).2 ∧
      ∀ e, (call.method c).1 = .error (.check e) →
        (takeLastError (some route.table) (call.apply route.table s).2).1 =
          (ErrorCode.ofDebugError e).number := by
  have halike : Alike Understood (context route.guard) (universalOfGuard route.guard)
      Focus.first Session.universal (Fronts route) :=
    alike_of_callsHosts (callsHosts_call route.universal)
  cases call with
  | call r =>
    obtain ⟨n, hcalled⟩ := h.exists_call_eq r
    obtain ⟨ha, hc⟩ :=
      (alike_of_callsHosts (callsHosts_callWithin n route.universal)).respond h r
    simp only [GuardCall.apply, GuardCall.method, Session.respond, hcalled, callGuard]
    generalize callWithin (n + 1) = call at ha hc ⊢
    refine h.onGuard .returned hc ?_ ?_
    · have hword := ha.ofAnswer_eq
      generalize (DebugContext.respond (context route.guard) _ r s).1 = a at hword ⊢
      generalize (DebugContext.respond Focus.first _ r c).1 = a' at hword ⊢
      cases a <;> cases a' <;> exact congrArg Seen.returned hword
    · intro e he
      generalize (DebugContext.respond (context route.guard) _ r s).1 = a at ha ⊢
      generalize (DebugContext.respond Focus.first _ r c).1 = a' at ha he
      cases a' with
      | ok reply => cases he
      | error e' =>
        cases he
        rw [ha.check]
        rfl
  | openHandle u =>
    obtain ⟨ha, hc⟩ := halike.openHandle h u
    simp only [GuardCall.apply, GuardCall.method, Surface.openHandle]
    refine h.onGuard (.returned ∘ .handle) hc ?_ ?_ <;> rw [ha]
    · cases (DebugContext.openHandle .first Session.universal u c).1 <;> rfl
    · intro e he
      rw [eq_error_of_mapError he]
      rfl
  | resolve k =>
    obtain ⟨ha, hc⟩ := halike.resolve h k
    simp only [GuardCall.apply, GuardCall.method, Surface.resolve, Session.resolve]
    refine h.onGuard (.returned ∘ .handle) hc ?_ ?_ <;> rw [ha]
    · cases (DebugContext.resolve .first Session.universal k c).1 <;> rfl
    · intro e he
      rw [eq_error_of_mapError he]
      rfl
  | closeHandle k =>
    obtain ⟨ha, hc⟩ := halike.closeHandle h k
    simp only [GuardCall.apply, GuardCall.method, Surface.closeHandle, Session.closeHandle]
    refine h.onGuard (fun _ => .returned .nothing) hc ?_ ?_
    · cases (DebugContext.closeHandle .first Session.universal k c).1 <;> rfl
    · intro e he
      rw [ha, eq_error_of_mapError he]
      rfl
  | newGeneration =>
    obtain ⟨hn, hc⟩ := h.context_update (f := DebugContext.newGeneration) fun hd => hd.onTable _
    simp only [GuardCall.apply, GuardCall.method, Surface.newGeneration]
    refine h.onGuard (Seen.number ∘ UInt64.toNat) hc ?_ ?_
    · exact congrArg (Seen.number ∘ UInt64.toNat) hn
    · intro e he
      cases he
  | openHandleCount since =>
    obtain ⟨g, hg, -, -, hd⟩ := h.guard
    simp only [GuardCall.apply, GuardCall.method, Surface.openHandleCount]
    refine h.onGuard .number h ?_ ?_
    · rw [context_get hg, openHandles, hd.table]
      rfl
    · intro e he
      cases he

end Fronts

/-- Memory that is filled for a new debug context before the table of a host. -/
theorem fronts_of_initTable {s : Surface} {t u i : Nat} {table : OpTable} {st : ObjectStore}
    (ht : t < s.tables.size) (htu : t ≠ u) (hu : s.tables[u]? = some table)
    (hcurrent : table.isCurrent = true) (hfunctions : table.functions = .host [])
    (hbacking : table.backing = .state i) (hhost : s.hosts[i]? = some ⟨st, .none⟩)
    (hst : st.WellFormed) (hrunning : s.stopped = none) (id universalId : ContextId)
    (name : String) :
    Fronts ⟨t, s.guards.size, u, i⟩
      (setPolicy (some t) 1 (initTable (some t) (some u) s).2).2
      (.new id s.guards.size universalId name s.registry.config, st) := by
  obtain ⟨hostName, huniversal⟩ := Usable.universal?_eq ⟨table, hu, hcurrent⟩
  have hfilled := congrArg Prod.snd (initTable_eq (t := t) huniversal)
  generalize (initTable (some t) (some u) s).2 = s' at hfilled
  have hguard : s'.guard? (some t) = some s.guards.size := by
    rw [hfilled]
    exact guard?_fill_iff.mpr (.inl ⟨rfl, ht, rfl⟩)
  have hset : (setPolicy (some t) 1 s').2 =
      s'.modifyGuard s.guards.size ({ · with policy := .report }) := by
    simp only [setPolicy, hguard]
    rfl
  have hnew : (setPolicy (some t) 1 s').2.guards[s.guards.size]? =
      some { s.newGuard u hostName none with policy := .report } := by
    rw [hset, modifyGuard, Array.getElem?_modify, if_pos rfl, hfilled, Array.getElem?_push_size]
    rfl
  refine ⟨?_, ?_, ⟨_, hnew, rfl, rfl, rfl, .new _ _, rfl, rfl⟩, ?_, ?_, hst, ?_⟩ <;> rw [hset]
  · exact hguard
  · rw [hfilled]
    simp only [modifyGuard, fill, modifyTable, Array.getElem?_modify, if_true,
      Array.getElem?_eq_getElem ht, Option.map_some]
    rfl
  · rw [hfilled]
    simp only [modifyGuard, fill, modifyTable, Array.getElem?_modify, if_neg htu, hu,
      Option.map_some, hfunctions, hbacking]
  · rw [hfilled]
    exact hhost
  · rw [hfilled]
    exact hrunning

/-! ### Runs -/

/-- The state of the interface after some calls on debug table `p`. -/
def GuardCall.run (p : TableRef) (s : Surface) (calls : List GuardCall) : Surface :=
  calls.foldl (fun s call => (call.apply p s).2) s

/-- The session after the methods for some calls. -/
def GuardCall.methods (c : Session) (calls : List GuardCall) : Session :=
  calls.foldl (fun c call => (call.method c).2) c

theorem Fronts.run {route : Route} {s : Surface} {c : Session} (h : Fronts route s c)
    (calls : List GuardCall) :
    Fronts route (GuardCall.run route.table s calls) (GuardCall.methods c calls) := by
  induction calls generalizing s c with
  | nil => exact h
  | cons call calls ih => exact ih (h.step call).2.1

/-- Calls on a debug table under the report policy, before the table of a host, agree with the
methods of a debug context of the same tag that stands before the store of the host itself. After
any calls the handle tables, the logs, and the stores with their counts of calls are the same. The
next call answers as the method does, with the failure value where the method fails, and a failed
check is left as the last error. -/
theorem foreign_calls_agree {route : Route} {s : Surface} {c : Session} (h : Fronts route s c)
    (calls : List GuardCall) (call : GuardCall) :
    let s' := GuardCall.run route.table s calls
    let c' := GuardCall.methods c calls
    (∃ g, s'.guards[route.guard]? = some g ∧ g.context.table = c'.1.table ∧
      c'.1.log.snapshot = g.context.log.snapshot.map (·.inContext c'.1.id) ∧
      c'.1.log.dropped = g.context.log.dropped) ∧
    s'.hosts[route.host]?.map Host.store = some c'.2 ∧ s'.stopped = none ∧
    (call.apply route.table s').1 = call.seen (call.method c').1 ∧
    ∀ e, (call.method c').1 = .error (.check e) →
      (takeLastError (some route.table) (call.apply route.table s').2).1 =
        (ErrorCode.ofDebugError e).number := by
  intro s' c'
  have hrun : Fronts route s' c' := h.run calls
  obtain ⟨g, hg, -, -, hd⟩ := hrun.guard
  obtain ⟨hseen, -, hlast⟩ := hrun.step call
  refine ⟨⟨g, hg, hd.table, hd.log.snapshot_eq, hd.log.dropped_eq⟩, ?_, hrun.running,
    hseen, hlast⟩
  rw [hrun.host, Option.map_some]

/-- The debug context is told to trust the address 9, which the host refuses to duplicate, and then
the handle of an integer is closed and used. The caller sees minus one, and the code of a use after
close. The host was called three times. -/
theorem foreign_calls_agree_use_after_close :
    let host := ((new .default).addHost none Schema.tableVersion [] .none).2
    let s := (setPolicy (some 1) 1 (initTable (some 1) (some 0) (host.addTable .blank).2).2).2
    let c : Session := (.new ⟨7⟩ 0 ⟨1⟩ "memory" .default, .empty)
    let calls := [.call (.fromInt 5), .openHandle ⟨9⟩, .call (.dup ⟨2⟩), .call (.close ⟨1⟩)]
    let s' := GuardCall.run 1 s calls
    Fronts ⟨1, 0, 0, 0⟩ s c ∧
      s'.hosts[0]?.map Host.store = some ⟨#[none], 3⟩ ∧
      ((GuardCall.call (.asInt ⟨1⟩)).apply 1 s').1 = .returned (.value (-1)) ∧
      (takeLastError (some 1) ((GuardCall.call (.asInt ⟨1⟩)).apply 1 s').2).1 = 101 := by
  intro host s c calls s'
  have hfronts : Fronts ⟨1, 0, 0, 0⟩ s c :=
    fronts_of_initTable (s := (host.addTable .blank).2) (t := 1) (u := 0) (by decide) (by decide)
      rfl rfl rfl rfl rfl ObjectStore.empty_wellFormed rfl ⟨7⟩ ⟨1⟩ "memory"
  obtain ⟨-, hstore, -, hseen, hlast⟩ :=
    foreign_calls_agree hfronts calls (.call (.asInt ⟨1⟩))
  have hfound : (match ((GuardCall.call (.asInt ⟨1⟩)).method (GuardCall.methods c calls)).1 with
      | .error e => e.debugError?
      | .ok _ => none) = some (.useAfterClose ⟨1⟩) := by
    decide +kernel
  have hmethod : ((GuardCall.call (.asInt ⟨1⟩)).method (GuardCall.methods c calls)).1 =
      .error (.check (.useAfterClose ⟨1⟩)) := by
    split at hfound
    · rename_i e he
      cases e <;> cases hfound
      exact he
    · cases hfound
  rw [hmethod] at hseen
  refine ⟨hfronts, hstore.trans ?_, hseen, hlast _ hmethod⟩
  decide +kernel

end Foreign.Surface

end HandleGuard
