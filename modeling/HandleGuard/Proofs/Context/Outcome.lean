import HandleGuard.Proofs.Context.Frame
import HandleGuard.Proofs.Context.Run
import HandleGuard.Proofs.Store.Produced
import HandleGuard.Proofs.Table.Bindings
import Mathlib.Algebra.Group.Nat.Defs

/-!
# Every call is accounted for

A call on a debug context without a hook, before an integer store, ends in one of three ways. A handle
that may not be used is refused before the store hears of the call (`Refused`). A handle that the store
made for a full table is given back (`GivenBack`). All other calls are passed on once, and leave no
diagnostic (`Served`). `every_call_accounted` says so for all states that operations can reach, and for
all calls.

* `Sound`, `Sound.run`                    what it takes of a state, and that all runs keep it
* `respond_refused_first`, `wrap_cases`   the two checks at which a call can fail
-/

namespace HandleGuard

/-- An operation on a debug context over an integer store, or a use that others make of the store. -/
inductive StoreSessionOp where
  | own (op : ContextOp)
  | openHandle (uh : Handle)
  | takeDiagnostics
  /-- Others call the store. -/
  | outside (r : Request)

namespace StoreSessionOp

open DebugContext

/-- The context and the store after an operation. -/
def apply (c : DebugContext × ObjectStore) : StoreSessionOp → DebugContext × ObjectStore
  | own op => op.apply ObjectStore.respond c
  | openHandle uh => (DebugContext.openHandle .first ObjectStore.respond.beside uh c).2
  | takeDiagnostics => (c.1.takeDiagnostics.2, c.2)
  | outside r => (c.1, (ObjectStore.respond r c.2).2)

/-- The state after a run. -/
def run (c : DebugContext × ObjectStore) (ops : List StoreSessionOp) : DebugContext × ObjectStore :=
  ops.foldl apply c

end StoreSessionOp

namespace DebugContext

/-- What a call asks of the table for one of its handles. -/
def checkFor (t : HandleTable) : Request → Handle → Except DebugError Handle
  | .close _, h => (t.close h).1
  | _, h => t.resolve h

/-- The context with one diagnostic more, for the error `e`. -/
def withDiagnostic (d : DebugContext) (e : DebugError) : DebugContext :=
  { d with log := d.log.push (.ofError e d.id) }

/-- The store produces a handle for the call. -/
def Produces (d : DebugContext) (s : ObjectStore) (r : Request) : Prop :=
  ∃ us uh, r.handles.mapM d.table.resolve = .ok us ∧
    (ObjectStore.respond (r.withHandles us) s).1 = .ok (.handle uh)

variable {d : DebugContext} {s : ObjectStore} {r : Request} {a : Except CallError Reply}
  {c : DebugContext × ObjectStore}

/-- A handle may not be used. The call fails for the first one, the store and the table stay as they
are, and there is one diagnostic. -/
structure Refused (d : DebugContext) (s : ObjectStore) (r : Request) (a : Except CallError Reply)
    (c : DebugContext × ObjectStore) : Prop where
  first : ∃ before h after e, r.handles = before ++ h :: after ∧
    (∀ k ∈ before, d.table.Accepts k) ∧ ¬d.table.Accepts h ∧
    checkFor d.table r h = .error e ∧ e.handle? = some h ∧
    a = .error (.check e) ∧ c.1 = d.withDiagnostic e
  store : c.2 = s

/-- The store produced a handle and the table is full. The handle is given back: the table and the
objects stay as they are, the store was called twice, and there is one diagnostic. -/
structure GivenBack (d : DebugContext) (s : ObjectStore) (r : Request) (a : Except CallError Reply)
    (c : DebugContext × ObjectStore) : Prop where
  accepted : ∀ h ∈ r.handles, d.table.Accepts h
  produced : Produces d s r
  full : d.table.openCount = d.table.capacity
  answer : a = .error (.check (.tableFull d.table.capacity))
  context : c.1 = d.withDiagnostic (.tableFull d.table.capacity)
  calls : c.2.calls = s.calls + 2
  live : c.2.liveObjects = s.liveObjects
  values : ∀ k, c.2.value? k = s.value? k
  counts : ∀ k o, s.object? k = some o → o.refs < 2 ^ 32 - 1 → c.2.object? k = some o

/-- The call is passed on as it should be: there is no diagnostic, and the store is called once, but
not to close null. What the store answers is the answer, with a debug handle in place of a handle. -/
structure Served (d : DebugContext) (s : ObjectStore) (r : Request) (a : Except CallError Reply)
    (c : DebugContext × ObjectStore) : Prop where
  accepted : ∀ h ∈ r.handles, d.table.Accepts h
  fits : ¬(Produces d s r ∧ d.table.openCount = d.table.capacity)
  log : c.1.log = d.log
  calls : c.2.calls = if r = .close .null then s.calls else s.calls + 1
  null : r = .close .null → a = .ok .closed ∧ c = (d, s)
  passed : r ≠ .close .null → ∃ us, r.handles.mapM d.table.resolve = .ok us ∧
    c.2 = (ObjectStore.respond (r.withHandles us) s).2 ∧
    match (ObjectStore.respond (r.withHandles us) s).1 with
    | .ok (.handle uh) => ∃ h, a = .ok (.handle h) ∧ c.1.table.resolve h = .ok uh
    | answer => a = answer

/-- A table and a store that operations can reach. -/
structure Sound (c : DebugContext × ObjectStore) : Prop where
  table : c.1.table.WellFormed
  store : c.2.WellFormed

/-- All operations of the context keep both sound. -/
theorem Sound.framed : Framed .first ObjectStore.respond.beside fun c c' => Sound c → Sound c' where
  refl _ hc := hc
  trans h h' hc := h' (h hc)
  table top hop c hc := by
    refine ⟨?_, hc.store⟩
    show ((_ : HandleTable → Except DebugError Handle × HandleTable) c.1.table).2.WellFormed
    rw [hop]
    exact HandleTable.perform_wellFormed hc.table top
  record e c hc := ⟨(record_table c.1 e).symm ▸ hc.table, hc.store⟩
  noteHook _ _ hc := ⟨hc.table, hc.store⟩
  universal r _ hc := ⟨hc.table, (ObjectStore.respond_wellFormed hc.store r).1⟩

theorem Sound.apply (hc : Sound c) (op : StoreSessionOp) : Sound (op.apply c) := by
  cases op with
  | own op =>
    cases op with
    | call r => exact Sound.framed.respond r c hc
    | resolve h => exact Sound.framed.resolve h c hc
    | closeHandle h => exact Sound.framed.closeHandle h c hc
    | setClosedQueueMax max =>
      exact ⟨HandleTable.perform_wellFormed hc.table (.setClosedQueueMax max), hc.store⟩
    | newGeneration => exact ⟨HandleTable.perform_wellFormed hc.table .newGeneration, hc.store⟩
    | setHook hook => exact ⟨hc.table, hc.store⟩
  | openHandle uh => exact Sound.framed.openHandle uh c hc
  | takeDiagnostics => exact ⟨hc.table, hc.store⟩
  | outside r => exact ⟨hc.table, (ObjectStore.respond_wellFormed hc.store r).1⟩

theorem Sound.run (hc : Sound c) (ops : List StoreSessionOp) : Sound (StoreSessionOp.run c ops) := by
  induction ops generalizing c with
  | nil => exact hc
  | cons op ops ih => exact ih (hc.apply op)

/-! ### The three ways -/

theorem record_of_hook_none (hhook : d.hook = none) (e : DebugError) :
    d.record e = d.withDiagnostic e := by
  have hnone : ¬d.hook.isSome = true := by simp [hhook]
  exact if_neg hnone

section

variable {τ : Type} {U : Universal τ} {u : τ} (ht : d.table.WellFormed) (hhook : d.hook = none)

include ht hhook

/-- A call with a handle that may not be used is refused for the first one. -/
private theorem respond_refused_first (hbad : ∃ h ∈ r.handles, ¬d.table.Accepts h) :
    ∃ before h after e, r.handles = before ++ h :: after ∧
      (∀ k ∈ before, d.table.Accepts k) ∧ ¬d.table.Accepts h ∧
      checkFor d.table r h = .error e ∧ e.handle? = some h ∧
      respond .first U.beside r (d, u) = (.error (.check e), d.withDiagnostic e, u) := by
  obtain ⟨k, hk, hbad⟩ := hbad
  obtain ⟨h, rfl⟩ | hr := r.eq_close_or_ne
  · obtain rfl : k = h := List.mem_singleton.mp hk
    rw [respond, closeThrough_first]
    obtain ⟨rfl, -⟩ | ⟨uh, t, hclose, -⟩ | ⟨e, hclose, -, he⟩ := d.table.close_bindings ht k
    · exact absurd (.inl rfl) hbad
    · have hok := (HandleTable.close_eq_ok_iff ht).mp (congrArg Prod.fst hclose)
      exact absurd ((HandleTable.accepts_iff ht).mpr ⟨uh, hok⟩) hbad
    · refine ⟨[], k, [], e, rfl, by simp, hbad, congrArg Prod.fst hclose, he, ?_⟩
      rw [hclose]
      simp only [report_of_hook_none U.beside e hhook, record_of_hook_none hhook]
  · have hcheck : ∀ h, checkFor d.table r h = d.table.resolve h := by
      intro h
      cases r with
      | close l => exact absurd rfl (hr l)
      | _ => rfl
    rw [respond_first U.beside hr]
    cases hres : r.handles.mapM d.table.resolve with
    | ok us => exact absurd ((HandleTable.mapM_resolve_ok ht hres).1 k hk) hbad
    | error e =>
      obtain ⟨before, h, after, hargs, hbefore, hrefused, he⟩ :=
        HandleTable.mapM_resolve_error ht hres
      refine ⟨before, h, after, e, hargs, hbefore, hrefused, ?_,
        (HandleTable.resolve_error he).2, ?_⟩
      · rw [hcheck, he]
      · simp only [report_of_hook_none U.beside e hhook, record_of_hook_none hhook]

/-- A handle is wrapped, or closed again as the table is full. -/
private theorem wrap_cases {uh : Handle} (huh : uh ≠ .null) :
    (∃ h t, wrap .first U.beside uh (d, u) = (.ok (.handle h), { d with table := t }, u) ∧
      t.resolve h = .ok uh ∧ d.table.openCount ≠ d.table.capacity) ∨
    (wrap .first U.beside uh (d, u) = (.error (.check (.tableFull d.table.capacity)),
      d.withDiagnostic (.tableFull d.table.capacity), (U (.close uh) u).2) ∧
      d.table.openCount = d.table.capacity) := by
  simp only [wrap, openHandle, checkOpen, check_first]
  obtain ⟨h, t, hopen, ht', -, hperm⟩ | ⟨hopen, hfull⟩ := d.table.openHandle_bindings ht huh
  · have hok := congrArg Prod.fst hopen
    have hroom := HandleTable.openCount_lt_capacity ht huh hok
    obtain ⟨hh, -⟩ := HandleTable.openHandle_performedBy ht huh hok
    refine .inl ⟨h, t, by rw [hopen], ?_, by omega⟩
    exact (HandleTable.mem_bindings_iff ht' hh).mp (hperm.mem_iff.mpr List.mem_cons_self)
  · refine .inr ⟨?_, hfull⟩
    rw [hopen]
    simp only [report_of_hook_none U.beside _ hhook, record_of_hook_none hhook]
    rfl

end

/-- Whether the store produces a handle depends on what the handles of the call stand for. -/
private theorem produces_iff {us : List Handle} (hres : r.handles.mapM d.table.resolve = .ok us) :
    Produces d s r ↔ ∃ uh, (ObjectStore.respond (r.withHandles us) s).1 = .ok (.handle uh) := by
  constructor
  · rintro ⟨us', uh, hres', hstore⟩
    rw [hres] at hres'
    cases hres'
    exact ⟨uh, hstore⟩
  · rintro ⟨uh, hstore⟩
    exact ⟨us, uh, hres, hstore⟩

section

variable (hc : Sound (d, s))

include hc

/-- A call is served when the store answers it with anything but a handle. -/
private theorem served_as_answered (hnull : r ≠ .close .null) {us : List Handle} {s' : ObjectStore}
    (hres : r.handles.mapM d.table.resolve = .ok us)
    (hstore : ObjectStore.respond (r.withHandles us) s = (a, s'))
    (hother : ∀ uh, a ≠ .ok (.handle uh)) (t : HandleTable) :
    Served d s r a ({ d with table := t }, s') := by
  have hcounted := ObjectStore.calls_respond (r.withHandles us) s
  rw [hstore] at hcounted
  refine ⟨(HandleTable.mapM_resolve_ok hc.table hres).1, ?_, rfl, ?_, fun h => absurd h hnull,
    fun _ => ⟨us, hres, by rw [hstore], ?_⟩⟩
  · rw [produces_iff hres, hstore]
    rintro ⟨⟨uh, hhandle⟩, -⟩
    exact hother uh hhandle
  · rw [if_neg hnull]
    exact hcounted
  · rw [hstore]
    split
    · next uh heq => exact absurd heq (hother uh)
    · rfl

private theorem close_served {h : Handle} (hall : d.table.Accepts h) :
    let p := respond .first ObjectStore.respond.beside (.close h) (d, s)
    Served d s (.close h) p.1 p.2 := by
  rw [respond, closeThrough_first]
  obtain ⟨rfl, hclose⟩ | ⟨uh, t, hclose, hh, huh, -⟩ | ⟨e, hclose, -⟩ :=
    d.table.close_bindings hc.table h
  · rw [hclose]
    have hres : (Request.close .null).handles.mapM d.table.resolve = .ok [.null] := rfl
    have hnever : ¬Produces d s (.close .null) := by
      rw [produces_iff hres]
      rintro ⟨uh, hhandle⟩
      exact ObjectStore.respond_close_ne_handle .null uh s hhandle
    exact ⟨by simpa [Request.handles] using hall, fun hboth => hnever hboth.1, rfl, rfl,
      fun _ => ⟨rfl, rfl⟩, fun hne => absurd rfl hne⟩
  · have hok := (HandleTable.close_eq_ok_iff hc.table).mp (congrArg Prod.fst hclose)
    have hres : (Request.close h).handles.mapM d.table.resolve = .ok [uh] := by
      simp only [Request.handles, List.mapM_cons, hok]
      rfl
    rw [hclose]
    simp only [Handle.not_isNull huh]
    exact served_as_answered hc (by simpa using hh) hres rfl
      (fun k => ObjectStore.respond_close_ne_handle uh k s) t
  · exact absurd hall (HandleTable.not_accepts_of_close hc.table (congrArg Prod.fst hclose))

variable (hhook : d.hook = none)

include hhook

/-- A handle that the store produced is wrapped, or given back. -/
private theorem wrap_accounted (hr : ∀ k, r ≠ .close k) {us : List Handle} {uh : Handle}
    {s' : ObjectStore} (hres : r.handles.mapM d.table.resolve = .ok us)
    (hstore : ObjectStore.respond (r.withHandles us) s = (.ok (.handle uh), s')) :
    let p := wrap .first ObjectStore.respond.beside uh (d, s')
    GivenBack d s r p.1 p.2 ∨ Served d s r p.1 p.2 := by
  have hall := (HandleTable.mapM_resolve_ok hc.table hres).1
  have hfirst : s'.calls = s.calls + 1 := by
    rw [← ObjectStore.calls_respond (r.withHandles us) s, hstore]
  have huh : uh ≠ .null := by
    rintro rfl
    exact (ObjectStore.respond_wellFormed hc.store (r.withHandles us)).2 (by rw [hstore])
  obtain ⟨h, t, hwrap, hopen, hroom⟩ | ⟨hwrap, hfull⟩ :=
    wrap_cases (U := ObjectStore.respond) (u := s') hc.table hhook huh
  · rw [hwrap]
    exact .inr ⟨hall, fun hboth => hroom hboth.2, rfl, by rw [if_neg (hr .null)]; exact hfirst,
      fun hnull => absurd hnull (hr .null),
      fun _ => ⟨us, hres, by rw [hstore], by rw [hstore]; exact ⟨h, rfl, hopen⟩⟩⟩
  · obtain ⟨s'', hback, hs'', hvalues, hcounts⟩ := ObjectStore.close_produced hc.store hstore
    have hsecond : s''.calls = s'.calls + 1 := by
      rw [← ObjectStore.calls_respond (.close uh) s', hback]
    rw [hwrap, hback]
    exact .inl ⟨hall, ⟨us, uh, hres, by rw [hstore]⟩, hfull, rfl, rfl, by dsimp only; omega,
      ObjectStore.liveObjects_congr hc.store hs'' hvalues, hvalues, hcounts⟩

/-- A call whose handles may all be used is served, or what it produced is given back. -/
private theorem respond_accounted (hall : ∀ h ∈ r.handles, d.table.Accepts h) :
    let p := respond .first ObjectStore.respond.beside r (d, s)
    GivenBack d s r p.1 p.2 ∨ Served d s r p.1 p.2 := by
  obtain ⟨h, rfl⟩ | hr := r.eq_close_or_ne
  · exact .inr (close_served hc (hall h List.mem_cons_self))
  · rw [respond_first ObjectStore.respond.beside hr]
    cases hres : r.handles.mapM d.table.resolve with
    | error e =>
      obtain ⟨before, h, after, hargs, -, hrefused, -⟩ :=
        HandleTable.mapM_resolve_error hc.table hres
      exact absurd (hall h (by simp [hargs])) hrefused
    | ok us =>
      dsimp only
      obtain ⟨uh, s', hstore, hforward⟩ | ⟨answer, s', hstore, hother, hforward⟩ :=
        forward_first_cases ObjectStore.respond (r.withHandles us) d s
      · rw [hforward]
        exact wrap_accounted hc hhook hr hres hstore
      · rw [hforward]
        exact .inr (served_as_answered hc (hr .null) hres hstore hother d.table)

end

/-! ### One way only -/

theorem Refused.exists_refused (h : Refused d s r a c) : ∃ k ∈ r.handles, ¬d.table.Accepts k := by
  obtain ⟨before, k, after, e, hargs, -, hrefused, -⟩ := h.first
  exact ⟨k, by simp [hargs], hrefused⟩

end DebugContext

section

open DebugContext

/-- Every call is accounted for. Take a new debug context before an empty integer store, any
operations on it and any use of the store by others, and a state without a hook that they lead to.
Then every call ends in exactly one of three ways: it is refused for its first handle that may not be
used, with one diagnostic and nothing else changed; or the store produced a handle for a full table,
which is given back, with one diagnostic and the same objects; or it is passed on once, without a
diagnostic, and its answer is that of the store. -/
theorem every_call_accounted (d : DebugContext) (tag closedQueueMax capacity : Nat)
    (htable : d.table = .withCapacity tag closedQueueMax capacity) (ops : List StoreSessionOp) :
    let c := StoreSessionOp.run (d, .empty) ops
    c.1.hook = none → ∀ r : Request,
      let p := respond .first ObjectStore.respond.beside r c
      (Refused c.1 c.2 r p.1 p.2 ∨ GivenBack c.1 c.2 r p.1 p.2 ∨ Served c.1 c.2 r p.1 p.2) ∧
        ¬(Refused c.1 c.2 r p.1 p.2 ∧ GivenBack c.1 c.2 r p.1 p.2) ∧
        ¬(Refused c.1 c.2 r p.1 p.2 ∧ Served c.1 c.2 r p.1 p.2) ∧
        ¬(GivenBack c.1 c.2 r p.1 p.2 ∧ Served c.1 c.2 r p.1 p.2) := by
  intro c hhook r p
  have hstart : Sound (d, .empty) :=
    ⟨htable ▸ HandleTable.withCapacity_wellFormed tag closedQueueMax capacity,
      ObjectStore.empty_wellFormed⟩
  have hc : Sound c := hstart.run ops
  refine ⟨?_, ?_, ?_, ?_⟩
  · by_cases hbad : ∃ h ∈ r.handles, ¬c.1.table.Accepts h
    · obtain ⟨before, h, after, e, hargs, hbefore, hrefused, hcheck, he, hanswer⟩ :=
        respond_refused_first (U := ObjectStore.respond) (u := c.2) hc.table hhook hbad
      left
      exact ⟨⟨before, h, after, e, hargs, hbefore, hrefused, hcheck, he,
        congrArg Prod.fst hanswer, congrArg (fun p => p.2.1) hanswer⟩,
        congrArg (fun p => p.2.2) hanswer⟩
    · right
      apply respond_accounted hc hhook
      intro h hh
      by_contra hrefused
      exact hbad ⟨h, hh, hrefused⟩
  -- Only the first way has a handle that may not be used, and only the second a full table for one
  -- that was produced.
  · rintro ⟨hrefused, hgiven⟩
    obtain ⟨k, hk, hbad⟩ := hrefused.exists_refused
    exact hbad (hgiven.accepted k hk)
  · rintro ⟨hrefused, hserved⟩
    obtain ⟨k, hk, hbad⟩ := hrefused.exists_refused
    exact hbad (hserved.accepted k hk)
  · rintro ⟨hgiven, hserved⟩
    exact hserved.fits ⟨hgiven.produced, hgiven.full⟩

/-- A table with one slot is full, and others hold an object too. A duplicate is made and given back:
the store was called twice, and its two objects are as before. -/
theorem every_call_accounted_full_table :
    let d : DebugContext := { (default : DebugContext) with table := .withCapacity 3 8 1 }
    let ops : List StoreSessionOp := [.outside (.fromInt 4), .own (.call (.fromInt 5))]
    let c := StoreSessionOp.run (d, .empty) ops
    let p := DebugContext.respond .first ObjectStore.respond.beside (.dup ⟨0x30000001⟩) c
    p.1 = .error (.check (.tableFull 1)) ∧ p.2.2.calls = 4 ∧ p.2.2.liveObjects = 2 ∧
      p.2.1 = c.1.withDiagnostic (.tableFull 1) := by
  intro d ops c p
  have hcalls : p.2.2.calls = 4 := by decide +kernel
  have hbefore : c.2.calls = 2 ∧ c.2.liveObjects = 2 := by decide +kernel
  have hcapacity : c.1.table.capacity = 1 := by decide +kernel
  have hways : Refused c.1 c.2 (.dup ⟨0x30000001⟩) p.1 p.2 ∨
      GivenBack c.1 c.2 (.dup ⟨0x30000001⟩) p.1 p.2 ∨
      Served c.1 c.2 (.dup ⟨0x30000001⟩) p.1 p.2 :=
    (every_call_accounted d 3 8 1 rfl ops (by decide +kernel) (.dup ⟨0x30000001⟩)).1
  -- The number of calls tells which way it was.
  rcases hways with hrefused | hgiven | hserved
  · have hsame := congrArg ObjectStore.calls hrefused.store
    omega
  · refine ⟨?_, hcalls, hgiven.live.trans hbefore.2, ?_⟩
    · rw [hgiven.answer, hcapacity]
    · rw [hgiven.context, hcapacity]
  · have honce := hserved.calls
    rw [if_neg (by decide)] at honce
    omega

end

end HandleGuard
