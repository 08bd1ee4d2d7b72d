import HandleGuard.Replay
import HandleGuard.Proofs.Context.Run
import HandleGuard.Proofs.Store.References
import HandleGuard.Proofs.Table.Bindings
import Mathlib.Data.List.Forall2
import Mathlib.Algebra.Group.Nat.Defs

/-!
# A debug context is transparent to correct programs

A program calls a context on handles that it names, and uses each handle only while it holds it. It
can be run on an integer store, or on a debug context before one, and it cannot tell which:
`runs_alike`. The two runs hold different handles under the same names, so `Mirrors` lists what is
held with both, and says that the table of the debug context binds the one to the other. The stores
of the two runs are equal at every point, as the debug context passes each call on as it stands.

* `NamedCall.run`    programs, on any context
* `Mirrors.step`     one call in both runs
* `Mirrors.run`      all calls
-/

namespace HandleGuard

/-! ### Programs -/

/-- A handle argument of a program. -/
inductive Operand where
  | null
  /-- The handle that the program holds under a name. -/
  | name (s : String)
deriving DecidableEq, Repr

/-- A call of a program. `bind` is the name for the handle that the call makes. -/
inductive NamedCall where
  | dup (x : Operand) (bind : Option String)
  | close (name : String)
  | fromInt (value : Int64) (bind : Option String)
  | asInt (x : Operand)
  | same (x y : Operand)
  | invoke (op : OpId) (args : List Operand) (bind : Option String)
deriving DecidableEq, Repr

/-- The handles that a program was given and has not closed, latest first. Each has its name, unless
a later one took the name over. -/
abbrev Holdings := List (Option String × Handle)

namespace Holdings

/-- The handle that is held under a name. -/
def find? (hs : Holdings) (s : String) : Option Handle :=
  (List.find? (fun p => p.1 == some s) hs).map Prod.snd

/-- Holds one more handle. If it has a name, it is the only one with this name. -/
def add (hs : Holdings) (bind : Option String) (h : Handle) : Holdings :=
  (bind, h) :: hs.map fun p => (if p.1 = bind then none else p.1, p.2)

/-- Lets the handle of a name go. -/
def remove (hs : Holdings) (s : String) : Holdings := hs.eraseP fun p => p.1 == some s

end Holdings

/-- The handle that an argument means, if it is null or held. -/
def Operand.eval (hs : Holdings) : Operand → Option Handle
  | null => some .null
  | name s => hs.find? s

namespace NamedCall

variable {σ : Type}

/-- The call on the handles that its arguments mean. -/
def request (hs : Holdings) : NamedCall → Option Request
  | dup x _ => do return .dup (← x.eval hs)
  | close s => do return .close (← hs.find? s)
  | fromInt v _ => some (.fromInt v)
  | asInt x => do return .asInt (← x.eval hs)
  | same x y => do return .same (← x.eval hs) (← y.eval hs)
  | invoke op args _ => do return .invoke op (← args.mapM (Operand.eval hs))

/-- The name for the handle that the call makes. -/
def bind? : NamedCall → Option String
  | dup _ bind | fromInt _ bind | invoke _ _ bind => bind
  | close _ | asInt _ | same .. => none

/-- What is held after a call with its answer. A handle that was passed to `close` is held no
more, whatever the answer. -/
def after (hs : Holdings) (a : Except CallError Reply) : NamedCall → Holdings
  | close s => hs.remove s
  | call =>
    match a with
    | .ok (.handle h) => hs.add call.bind? h
    | _ => hs

/-- Runs a program: the answers of the context, its state and what is held at the end. There is no
run of a program that uses a name under which nothing is held. -/
def run (U : Universal σ) :
    List NamedCall → σ × Holdings → Option (List (Except CallError Reply) × σ × Holdings)
  | [], c => some ([], c)
  | call :: calls, (s, hs) => do
    let r ← call.request hs
    let (a, s) := U r s
    let (answers, c) ← run U calls (s, call.after hs a)
    return (a :: answers, c)

/-- What a program can learn from an answer: it cannot look into handles. -/
def observe (a : Except CallError Reply) : Except CallError Reply :=
  a.map fun
    | .handle _ => .handle .null
    | reply => reply

theorem run_cons_eq_some_iff {U : Universal σ} {call : NamedCall} {calls : List NamedCall} {s : σ}
    {hs : Holdings} {answers : List (Except CallError Reply)} {c : σ × Holdings} :
    run U (call :: calls) (s, hs) = some (answers, c) ↔
      ∃ r rest, call.request hs = some r ∧
        run U calls ((U r s).2, call.after hs (U r s).1) = some (rest, c) ∧
        answers = (U r s).1 :: rest := by
  simp only [run, Option.bind_eq_bind, Option.bind_eq_some_iff, Option.pure_def,
    Option.some.injEq, Prod.mk.injEq, Prod.exists]
  constructor
  · rintro ⟨r, hr, rest, s', hs', hrun, rfl, rfl⟩
    exact ⟨r, rest, hr, hrun, rfl⟩
  · rintro ⟨r, rest, hr, hrun, rfl⟩
    exact ⟨r, hr, rest, c.1, c.2, hrun, rfl, rfl⟩

theorem length_after_le (call : NamedCall) (hs : Holdings) (a : Except CallError Reply) :
    (call.after hs a).length ≤ hs.length + 1 := by
  unfold after
  split
  · exact Nat.le_succ_of_le (List.length_eraseP_le)
  · split
    · simp [Holdings.add]
    · exact Nat.le_succ _

/-- Each call makes one handle at most. -/
theorem length_holdings_le {U : Universal σ} {calls : List NamedCall} {s : σ} {hs : Holdings}
    {answers : List (Except CallError Reply)} {c : σ × Holdings}
    (hrun : run U calls (s, hs) = some (answers, c)) : c.2.length ≤ hs.length + calls.length := by
  induction calls generalizing s hs answers with
  | nil =>
    cases hrun
    exact Nat.le_refl _
  | cons call calls ih =>
    obtain ⟨r, rest, -, hrest, -⟩ := run_cons_eq_some_iff.mp hrun
    have hle := ih hrest
    have hstep := length_after_le call hs (U r s).1
    rw [List.length_cons]
    omega

end NamedCall

/-! ### Two runs side by side -/

/-- A handle that is held in both runs. -/
structure HeldTwice where
  name : Option String
  /-- The handle of the debug context. -/
  debug : Handle
  /-- The handle of the store. -/
  universal : Handle

namespace HeldTwice

/-- What the run on the store holds. -/
def direct (js : List HeldTwice) : Holdings := js.map fun j => (j.name, j.universal)

/-- What the run on the debug context holds. -/
def mirrored (js : List HeldTwice) : Holdings := js.map fun j => (j.name, j.debug)

/-- Both runs hold one more handle. -/
def add (js : List HeldTwice) (bind : Option String) (h u : Handle) : List HeldTwice :=
  ⟨bind, h, u⟩ :: js.map fun j => { j with name := if j.name = bind then none else j.name }

/-- Both runs let the handle of a name go. -/
def remove (js : List HeldTwice) (s : String) : List HeldTwice := js.eraseP fun j => j.name == some s

theorem find?_direct (js : List HeldTwice) (s : String) :
    (direct js).find? s = (js.find? fun j => j.name == some s).map universal := by
  rw [Holdings.find?, direct, List.find?_map, Option.map_map]
  rfl

theorem find?_mirrored (js : List HeldTwice) (s : String) :
    (mirrored js).find? s = (js.find? fun j => j.name == some s).map debug := by
  rw [Holdings.find?, mirrored, List.find?_map, Option.map_map]
  rfl

theorem direct_add (js : List HeldTwice) (bind : Option String) (h u : Handle) :
    direct (add js bind h u) = (direct js).add bind u := by
  simp only [direct, add, Holdings.add, List.map_cons, List.map_map, Function.comp_def]

theorem mirrored_add (js : List HeldTwice) (bind : Option String) (h u : Handle) :
    mirrored (add js bind h u) = (mirrored js).add bind h := by
  simp only [mirrored, add, Holdings.add, List.map_cons, List.map_map, Function.comp_def]

theorem direct_remove (js : List HeldTwice) (s : String) :
    direct (remove js s) = (direct js).remove s := by
  rw [Holdings.remove, direct, direct, List.eraseP_map]
  rfl

theorem mirrored_remove (js : List HeldTwice) (s : String) :
    mirrored (remove js s) = (mirrored js).remove s := by
  rw [Holdings.remove, mirrored, mirrored, List.eraseP_map]
  rfl

end HeldTwice

open HeldTwice DebugContext

/-- A debug context whose table binds the handles that are held in one run to those that are held in
the other. Nothing was written to its log. -/
structure Mirrors (log : DiagnosticLog) (js : List HeldTwice) (c : Session) : Prop where
  table : c.1.table.WellFormed
  store : c.2.WellFormed
  capacity : c.1.table.capacity = Handle.maxSlots
  bindings : c.1.table.bindings.Perm (js.map fun j => (j.debug, j.universal))
  log_eq : c.1.log = log

namespace Mirrors

variable {log : DiagnosticLog} {js : List HeldTwice} {d : DebugContext} {st : ObjectStore}

theorem bound_of_mem (hm : Mirrors log js (d, st)) {j : HeldTwice} (hj : j ∈ js) :
    (j.debug, j.universal) ∈ d.table.bindings :=
  hm.bindings.mem_iff.mpr (List.mem_map_of_mem (f := fun j : HeldTwice => (j.debug, j.universal)) hj)

theorem debug_ne_null (hm : Mirrors log js (d, st)) {j : HeldTwice} (hj : j ∈ js) :
    j.debug ≠ .null := by
  have hmem : j.debug ∈ d.table.bindings.map Prod.fst := List.mem_map_of_mem (hm.bound_of_mem hj)
  rw [HandleTable.map_fst_bindings] at hmem
  obtain ⟨o, ho, heq⟩ := List.mem_map.mp hmem
  exact heq ▸ HandleTable.handle_ne_null_of_mem hm.table ho

theorem universal_ne_null (hm : Mirrors log js (d, st)) {j : HeldTwice} (hj : j ∈ js) :
    j.universal ≠ .null :=
  HandleTable.wrapped_ne_null hm.table (List.mem_map_of_mem (hm.bound_of_mem hj))

/-- A debug handle that is held resolves to the handle that the other run holds. -/
theorem resolve (hm : Mirrors log js (d, st)) {j : HeldTwice} (hj : j ∈ js) :
    d.table.resolve j.debug = .ok j.universal :=
  (HandleTable.mem_bindings_iff hm.table (hm.debug_ne_null hj)).mp (hm.bound_of_mem hj)

/-! ### Arguments -/

theorem eval (hm : Mirrors log js (d, st)) {x : Operand} {u : Handle}
    (hu : x.eval (direct js) = some u) :
    ∃ h, x.eval (mirrored js) = some h ∧ d.table.resolve h = .ok u := by
  cases x with
  | null =>
    cases hu
    exact ⟨.null, rfl, rfl⟩
  | name s =>
    rw [Operand.eval, find?_direct] at hu
    obtain ⟨j, hj, rfl⟩ := Option.map_eq_some_iff.mp hu
    refine ⟨j.debug, ?_, hm.resolve (List.mem_of_find?_eq_some hj)⟩
    rw [Operand.eval, find?_mirrored, hj, Option.map_some]

theorem mapM_eval (hm : Mirrors log js (d, st)) {xs : List Operand} {us : List Handle}
    (hus : xs.mapM (Operand.eval (direct js)) = some us) :
    ∃ hs, xs.mapM (Operand.eval (mirrored js)) = some hs ∧
      hs.mapM d.table.resolve = .ok us := by
  induction xs generalizing us with
  | nil =>
    cases hus
    exact ⟨[], rfl, rfl⟩
  | cons x xs ih =>
    simp only [List.mapM_cons, Option.bind_eq_bind, Option.bind_eq_some_iff, Option.pure_def,
      Option.some.injEq] at hus
    obtain ⟨u, hu, us', hus', rfl⟩ := hus
    obtain ⟨h, hh, hres⟩ := hm.eval hu
    obtain ⟨hs, hhs, hrest⟩ := ih hus'
    refine ⟨h :: hs, ?_, ?_⟩
    · rw [List.mapM_cons, hh, hhs]
      rfl
    · rw [List.mapM_cons, hres, hrest]
      rfl

/-- The call on debug handles is the call on the handles that they resolve to. -/
theorem request (hm : Mirrors log js (d, st)) {call : NamedCall} {r : Request}
    (hclose : ∀ s, call ≠ .close s) (hr : call.request (direct js) = some r) :
    ∃ r' us, call.request (mirrored js) = some r' ∧ (∀ k, r' ≠ .close k) ∧
      r'.handles.mapM d.table.resolve = .ok us ∧ r'.withHandles us = r := by
  cases call with
  | close s => exact absurd rfl (hclose s)
  | fromInt v bind =>
    cases hr
    exact ⟨.fromInt v, [], rfl, by simp, rfl, rfl⟩
  | dup x bind =>
    obtain ⟨u, hu, heq⟩ := Option.bind_eq_some_iff.mp hr
    cases heq
    obtain ⟨h, hh, hres⟩ := hm.eval hu
    exact ⟨.dup h, [u], by simp only [NamedCall.request, hh]; rfl, by simp,
      by simp only [Request.handles, List.mapM_cons, hres]; rfl, rfl⟩
  | asInt x =>
    obtain ⟨u, hu, heq⟩ := Option.bind_eq_some_iff.mp hr
    cases heq
    obtain ⟨h, hh, hres⟩ := hm.eval hu
    exact ⟨.asInt h, [u], by simp only [NamedCall.request, hh]; rfl, by simp,
      by simp only [Request.handles, List.mapM_cons, hres]; rfl, rfl⟩
  | same x y =>
    obtain ⟨u, hu, hrest⟩ := Option.bind_eq_some_iff.mp hr
    obtain ⟨v, hv, heq⟩ := Option.bind_eq_some_iff.mp hrest
    cases heq
    obtain ⟨h, hh, hres⟩ := hm.eval hu
    obtain ⟨k, hk, hres'⟩ := hm.eval hv
    exact ⟨.same h k, [u, v], by simp only [NamedCall.request, hh, hk]; rfl, by simp,
      by simp only [Request.handles, List.mapM_cons, hres, hres']; rfl, rfl⟩
  | invoke op args bind =>
    obtain ⟨us, hus, heq⟩ := Option.bind_eq_some_iff.mp hr
    cases heq
    obtain ⟨hs, hhs, hres⟩ := hm.mapM_eval hus
    exact ⟨.invoke op hs, us, by simp only [NamedCall.request, hhs]; rfl, by simp, hres, rfl⟩

/-! ### Calls -/

/-- What a call does in both runs: from the answer `a` and the store `st'` of the direct run to the
answer, the context and what is held in the other. -/
def Steps (log : DiagnosticLog) (js : List HeldTwice) (c : Session)
    (call : NamedCall) (a : Except CallError Reply) (st' : ObjectStore) : Prop :=
  ∃ r' a' d' js', call.request (mirrored js) = some r' ∧
    Session.respond r' c = (a', d', st') ∧
    NamedCall.observe a' = NamedCall.observe a ∧
    call.after (direct js) a = direct js' ∧ call.after (mirrored js) a' = mirrored js' ∧
    Mirrors log js' (d', st')

/-- A handle that the store answers gets a debug handle, as long as there is room for one more. -/
theorem wrap (hm : Mirrors log js (d, st)) (bind : Option String) {u : Handle} (hu : u ≠ .null)
    {st' : ObjectStore} (hst : st'.WellFormed) (hroom : js.length < Handle.maxSlots) :
    ∃ h d', DebugContext.wrap .first Session.universal u (d, st') = (.ok (.handle h), d', st') ∧
      Mirrors log (add js bind h u) (d', st') := by
  have hlen : d.table.openCount = js.length := by
    rw [← HandleTable.length_bindings hm.table, hm.bindings.length_eq, List.length_map]
  rw [DebugContext.wrap, openHandle, checkOpen, check_first]
  obtain ⟨h, t, hopen, ht, hcapacity, hperm⟩ | ⟨-, hfull⟩ :=
    HandleTable.openHandle_bindings hm.table hu
  · refine ⟨h, { d with table := t }, by rw [hopen], ht, hst, hcapacity.trans hm.capacity, ?_,
      hm.log_eq⟩
    have hnames : (add js bind h u).map (fun j => (j.debug, j.universal)) =
        (h, u) :: js.map fun j => (j.debug, j.universal) := by
      simp only [add, List.map_cons, List.map_map, Function.comp_def]
    rw [hnames]
    exact hperm.trans (hm.bindings.cons _)
  · -- A full table has an open handle in every slot.
    rw [hlen, hm.capacity] at hfull
    omega

/-- A call other than `close` in both runs. -/
theorem step_call (hm : Mirrors log js (d, st)) {call : NamedCall} {r : Request}
    (hclose : ∀ s, call ≠ .close s) (hr : call.request (direct js) = some r)
    (hroom : (call.after (direct js) (ObjectStore.respond r st).1).length ≤ Handle.maxSlots) :
    Steps log js (d, st) call (ObjectStore.respond r st).1 (ObjectStore.respond r st).2 := by
  have hafter : ∀ hs a, call.after hs a = match a with
      | .ok (.handle h) => hs.add call.bind? h
      | _ => hs := by
    intro hs a
    cases call with
    | close s => exact absurd rfl (hclose s)
    | _ => rfl
  obtain ⟨r', us, hr', hne, hres, rfl⟩ := hm.request hclose hr
  have hforward : Session.respond r' (d, st) =
      forward .first Session.universal (r'.withHandles us) (d, st) := by
    rw [Session.respond, respond_first _ hne, hres]
  obtain ⟨-, u, st', hcall, hu, hst, -⟩ | ⟨u, -, heq, -⟩ | ⟨a, hcall, ha, -⟩ :=
    ObjectStore.respond_refs hm.store (r'.withHandles us)
  · rw [hcall] at hroom ⊢
    rw [hafter] at hroom
    have hlt : js.length < Handle.maxSlots := by
      simp only [Holdings.add, direct, List.length_cons, List.length_map] at hroom
      omega
    obtain ⟨h, d', hwrap, hm'⟩ := hm.wrap call.bind? hu hst hlt
    refine ⟨r', .ok (.handle h), d', add js call.bind? h u, hr', ?_, rfl, ?_, ?_, hm'⟩
    · rw [hforward]
      simp only [forward, Session.universal, Universal.beside, hcall]
      exact hwrap
    · rw [hafter, direct_add]
    · rw [hafter, mirrored_add]
  · -- Replacing the handles of a call does not make it a `close`.
    exact absurd heq (withHandles_ne_close us hne u)
  · rw [hcall]
    have hsame : ∀ hs, call.after hs a = hs := by
      intro hs
      rw [hafter]
      split
      · exact absurd rfl (ha _)
      · rfl
    refine ⟨r', a, d, js, hr', ?_, rfl, hsame _, hsame _, hm.table, hm.store.counted, hm.capacity,
      hm.bindings, hm.log_eq⟩
    rw [hforward]
    simp only [forward, Session.universal, Universal.beside, hcall]

/-- A `close` of a held handle in both runs. -/
theorem step_close (hm : Mirrors log js (d, st)) {s : String} {u : Handle}
    (hu : (direct js).find? s = some u) :
    Steps log js (d, st) (.close s) (ObjectStore.respond (.close u) st).1
      (ObjectStore.respond (.close u) st).2 := by
  rw [find?_direct] at hu
  obtain ⟨j, hj, rfl⟩ := Option.map_eq_some_iff.mp hu
  have hmem := List.mem_of_find?_eq_some hj
  have hnull : j.universal.isNull = false := Handle.isNull_eq_false_iff.mpr (hm.universal_ne_null hmem)
  have hstore : (ObjectStore.respond (.close j.universal) st).2.WellFormed := by
    obtain ⟨-, _, _, hcall, -, hst, -⟩ | ⟨_, _, -, -, hcall, hst, -⟩ | ⟨_, hcall, -⟩ :=
      ObjectStore.respond_refs hm.store (.close j.universal)
    · rwa [hcall]
    · rwa [hcall]
    · rw [hcall]
      exact hm.store.counted
  -- The table gives up this handle and no other.
  obtain ⟨hh, -⟩ | ⟨v, t, hclose, -, -, ht, hcapacity, hperm⟩ | ⟨e, hclose, -⟩ :=
    HandleTable.close_bindings hm.table j.debug
  · exact absurd hh (hm.debug_ne_null hmem)
  · have hok := (HandleTable.close_eq_ok_iff hm.table).mpr (hm.resolve hmem)
    rw [hclose] at hok
    cases hok
    refine ⟨.close j.debug, (ObjectStore.respond (.close j.universal) st).1, { d with table := t },
      remove js s, ?_, ?_, rfl, (direct_remove js s).symm, (mirrored_remove js s).symm, ht, hstore,
      hcapacity.trans hm.capacity, ?_, hm.log_eq⟩
    · simp only [NamedCall.request, find?_mirrored, hj, Option.map_some]
      rfl
    · simp only [Session.respond, respond, closeThrough, checkClose, check_first, hclose, hnull]
      rfl
    · obtain ⟨-, l₁, l₂, hsplit, hbefore⟩ := List.find?_eq_some_iff_append.mp hj
      have hjs : js.Perm (j :: remove js s) := by
        have hrest : remove js s = l₁ ++ l₂ := by
          rw [remove, hsplit, List.eraseP_append_right _ fun k hk => by simpa using hbefore k hk,
            List.eraseP_cons_of_pos (List.find?_some hj)]
        rw [hrest, hsplit]
        exact List.perm_middle
      have hboth := hperm.symm.trans (hm.bindings.trans (hjs.map _))
      exact hboth.cons_inv
  · have hok := (HandleTable.close_eq_ok_iff hm.table).mpr (hm.resolve hmem)
    rw [hclose] at hok
    cases hok

/-- One call in both runs. -/
theorem step (hm : Mirrors log js (d, st)) {call : NamedCall} {r : Request}
    (hr : call.request (direct js) = some r)
    (hroom : (call.after (direct js) (ObjectStore.respond r st).1).length ≤ Handle.maxSlots) :
    Steps log js (d, st) call (ObjectStore.respond r st).1 (ObjectStore.respond r st).2 := by
  by_cases hclose : ∃ s, call = .close s
  · obtain ⟨s, rfl⟩ := hclose
    obtain ⟨u, hu, heq⟩ := Option.bind_eq_some_iff.mp hr
    cases heq
    exact hm.step_close hu
  · exact hm.step_call (fun s hs => hclose ⟨s, hs⟩) hr hroom

/-- All calls of a program in both runs. -/
theorem run (hm : Mirrors log js (d, st)) {calls : List NamedCall}
    {answers : List (Except CallError Reply)} {st' : ObjectStore} {hs : Holdings}
    (hrun : NamedCall.run ObjectStore.respond calls (st, direct js) = some (answers, st', hs))
    (hroom : ∀ n answers st' hs,
      NamedCall.run ObjectStore.respond (calls.take n) (st, direct js) = some (answers, st', hs) →
      hs.length ≤ Handle.maxSlots) :
    ∃ answers' d' js', NamedCall.run Session.respond calls ((d, st), mirrored js) =
        some (answers', (d', st'), mirrored js') ∧
      answers'.map NamedCall.observe = answers.map NamedCall.observe ∧ hs = direct js' ∧
      Mirrors log js' (d', st') := by
  -- Induction on the program, for all that may be held before it.
  induction calls generalizing d st js answers with
  | nil =>
    cases hrun
    exact ⟨[], d, js, rfl, rfl, rfl, hm⟩
  | cons call calls ih =>
    obtain ⟨r, rest, hr, hrest, rfl⟩ := NamedCall.run_cons_eq_some_iff.mp hrun
    have hone := hroom 1 _ _ _ (NamedCall.run_cons_eq_some_iff.mpr ⟨r, [], hr, rfl, rfl⟩)
    obtain ⟨r', a', d₁, js₁, hr', hcall, hobserve, hdirect, hmirrored, hm₁⟩ := hm.step hr hone
    rw [hdirect] at hrest
    have hroom₁ : ∀ n answers st' hs, NamedCall.run ObjectStore.respond (calls.take n)
        ((ObjectStore.respond r st).2, direct js₁) = some (answers, st', hs) →
        hs.length ≤ Handle.maxSlots := by
      intro n answers st' hs htake
      rw [← hdirect] at htake
      exact hroom (n + 1) _ st' hs (NamedCall.run_cons_eq_some_iff.mpr ⟨r, _, hr, htake, rfl⟩)
    obtain ⟨answers', d', js', hrun', hanswers, rfl, hm'⟩ := ih hm₁ hrest hroom₁
    refine ⟨a' :: answers', d', js', NamedCall.run_cons_eq_some_iff.mpr ⟨r', answers', hr', ?_, ?_⟩,
      ?_, rfl, hm'⟩
    · rw [hcall, hmirrored]
      exact hrun'
    · rw [hcall]
    · rw [List.map_cons, List.map_cons, hobserve, hanswers]

end Mirrors

/-- A debug context is a drop-in for its universal context. Take any program that runs on a new
integer store, with each argument null or a handle that it holds, and never holds more handles than
a table has slots. It runs on a new debug context before such a store too, whatever the settings of
the context. Values, truth values and errors are the same at each call, the stores are the same at
the end, with the number of their calls, what is held in one run resolves to what is held under this
name in the other, and the context has nothing in its log. -/
theorem runs_alike (id : ContextId) (tag : Nat) (universalId : ContextId) (name : String)
    (config : Config) (calls : List NamedCall) (answers : List (Except CallError Reply))
    (st : ObjectStore) (hs : Holdings)
    (hrun : NamedCall.run ObjectStore.respond calls (.empty, []) = some (answers, st, hs))
    (hheld : ∀ n answers st hs,
      NamedCall.run ObjectStore.respond (calls.take n) (.empty, []) = some (answers, st, hs) →
      hs.length ≤ 2 ^ 28 - 1) :
    ∃ answers' d hs',
      NamedCall.run Session.respond calls
        ((.new id tag universalId name config, .empty), []) = some (answers', (d, st), hs') ∧
      answers'.map NamedCall.observe = answers.map NamedCall.observe ∧
      List.Forall₂ (fun p q => p.1 = q.1 ∧
        Session.resolve p.2 (d, st) = (.ok q.2, (d, st))) hs' hs ∧
      d.log.snapshot = [] ∧ d.log.dropped = 0 := by
  have hinit : Mirrors (.new config.diagMax) [] (.new id tag universalId name config, .empty) :=
    ⟨HandleTable.withCapacity_wellFormed tag config.closedQueueMax Handle.maxSlots,
      ObjectStore.empty_wellFormed, Nat.min_self _, .refl _, rfl⟩
  obtain ⟨answers', d, js, hrun', hanswers, rfl, hm⟩ := hinit.run hrun hheld
  refine ⟨answers', d, mirrored js, hrun', hanswers, ?_, ?_, ?_⟩
  · rw [mirrored, direct, List.forall₂_map_left_iff, List.forall₂_map_right_iff,
      List.forall₂_same]
    intro j hj
    refine ⟨rfl, ?_⟩
    rw [Session.resolve, DebugContext.resolve, checkResolve, check_first, hm.resolve hj]
  · rw [show d.log = .new config.diagMax from hm.log_eq]
    rfl
  · rw [show d.log = .new config.diagMax from hm.log_eq]
    rfl

/-- Two names share an object, a call on null is refused by the store, and the address of the first
object is used again after it is closed. The table holds other handles throughout. -/
theorem runs_alike_sharing_object :
    let calls : List NamedCall := [.fromInt 5 "a", .dup (.name "a") "b", .dup .null "z",
      .invoke ObjectStore.addOp [.name "a", .name "b"] "c", .close "a", .close "b",
      .fromInt 7 "a", .same (.name "a") (.name "c"), .asInt (.name "c")]
    ∃ answers st hs answers' d hs',
      NamedCall.run ObjectStore.respond calls (.empty, []) = some (answers, st, hs) ∧
      NamedCall.run Session.respond calls
        ((.new ⟨2⟩ 3 ⟨1⟩ "memory" .default, .empty), []) = some (answers', (d, st), hs') ∧
      answers'.map NamedCall.observe = answers.map NamedCall.observe ∧
      hs = [(some "a", ⟨1⟩), (some "c", ⟨2⟩)] ∧ st.calls = 9 ∧ d.log.snapshot = [] := by
  intro calls
  obtain ⟨⟨answers, st, hs⟩, hrun⟩ : ∃ c, NamedCall.run ObjectStore.respond calls (.empty, []) =
      some c := Option.isSome_iff_exists.mp (by decide +kernel)
  have hheld : ∀ n answers st hs,
      NamedCall.run ObjectStore.respond (calls.take n) (.empty, []) = some (answers, st, hs) →
      hs.length ≤ 2 ^ 28 - 1 := by
    intro n answers st hs htake
    have hle := NamedCall.length_holdings_le htake
    have hlen := List.length_take_le' n calls
    have hcalls : calls.length = 9 := rfl
    simp only [List.length_nil] at hle
    omega
  obtain ⟨answers', d, hs', hrun', hanswers, -, hlog, -⟩ :=
    runs_alike ⟨2⟩ 3 ⟨1⟩ "memory" .default calls answers st hs hrun hheld
  have hend : (NamedCall.run ObjectStore.respond calls (.empty, [])).map
      (fun c => (c.2.2, c.2.1.calls)) = some ([(some "a", ⟨1⟩), (some "c", ⟨2⟩)], 9) := by decide +kernel
  rw [hrun, Option.map_some, Option.some.injEq, Prod.mk.injEq] at hend
  exact ⟨answers, st, hs, answers', d, hs', hrun, hrun', hanswers, hend.1, hend.2, hlog⟩

end HandleGuard
