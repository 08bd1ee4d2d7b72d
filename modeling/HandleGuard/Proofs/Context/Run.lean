import HandleGuard.Leak
import HandleGuard.Proofs.Context.Alike

/-!
# Runs of operations on a debug context

A debug context stands beside its universal context, and nobody else uses the two. A run is a list
of operations on the pair.

To speak about the calls that reach the universal context, `Universal.recorded` writes them down.
Recording changes nothing else: `run_recorded` gives the run back when the record is forgotten. It is
a case of a map of universal states along which the answers agree (`Agree`).
-/

namespace HandleGuard

variable {τ τ' : Type}

/-- A universal context that writes down its calls and its answers, latest last. -/
def Universal.recorded (U : Universal τ) :
    Universal (τ × List (Request × Except CallError Reply)) := fun r (u, calls) =>
  let (a, u) := U r u
  (a, u, calls ++ [(r, a)])

/-- An operation on a debug context. -/
inductive ContextOp where
  | call (r : Request)
  | resolve (h : Handle)
  | closeHandle (h : Handle)
  | setClosedQueueMax (max : Nat)
  | newGeneration
  | setHook (hook : Option (List HookAction))
deriving DecidableEq, Repr

namespace HookAction

/-- Whether the action closes a debug handle and leaves its universal handle as it is. -/
def isCloseHandle : HookAction → Bool
  | closeHandle _ => true
  | _ => false

/-- Whether the action only resolves or closes debug handles. -/
def usesHandle : HookAction → Bool
  | resolve _ | closeHandle _ | close _ => true
  | openHandle _ | universalClose _ => false

end HookAction

namespace ContextOp

open DebugContext

/-- The context and its universal context after an operation. -/
def apply (U : Universal τ) (c : DebugContext × τ) : ContextOp → DebugContext × τ
  | call r => (respond .first U.beside r c).2
  | resolve h => (DebugContext.resolve .first U.beside h c).2
  | closeHandle h => (DebugContext.closeHandle .first U.beside h c).2
  | setClosedQueueMax max => ({ c.1 with table := c.1.table.setClosedQueueMax max }, c.2)
  | newGeneration => (c.1.newGeneration.2, c.2)
  | setHook hook => (c.1.setHook hook, c.2)

/-- Whether an operation ends with a failed check. -/
def failsCheck (U : Universal τ) (c : DebugContext × τ) : ContextOp → Bool
  | call r =>
    match (respond .first U.beside r c).1 with
    | .error (.check _) => true
    | _ => false
  | resolve h =>
    match (DebugContext.resolve .first U.beside h c).1 with
    | .error _ => true
    | .ok _ => false
  | closeHandle h =>
    match (DebugContext.closeHandle .first U.beside h c).1 with
    | .error _ => true
    | .ok _ => false
  | _ => false

/-- Whether an operation uses `closeHandle`, itself or through the hook. -/
def usesCloseHandle (U : Universal τ) (c : DebugContext × τ) : ContextOp → Bool
  | closeHandle _ => true
  | op => failsCheck U c op && (c.1.hook.getD []).any HookAction.isCloseHandle

/-- Whether a run uses `closeHandle`. -/
def runUsesCloseHandle (U : Universal τ) : DebugContext × τ → List ContextOp → Bool
  | _, [] => false
  | c, op :: ops => usesCloseHandle U c op || runUsesCloseHandle U (apply U c op) ops

/-- The state after a run. -/
def run (U : Universal τ) (c : DebugContext × τ) (ops : List ContextOp) : DebugContext × τ :=
  ops.foldl (apply U) c

@[simp] theorem run_nil (U : Universal τ) (c : DebugContext × τ) : run U c [] = c := rfl

@[simp] theorem run_cons (U : Universal τ) (c : DebugContext × τ) (op : ContextOp)
    (ops : List ContextOp) : run U c (op :: ops) = run U (apply U c op) ops := rfl

end ContextOp

theorem Request.eq_close_or_ne (r : Request) : (∃ h, r = .close h) ∨ ∀ h, r ≠ .close h := by
  cases r with
  | close h => exact .inl ⟨h, rfl⟩
  | _ => exact .inr (by simp)

/-- Other handles do not make a call a `close`. -/
theorem withHandles_ne_close {r : Request} (us : List Handle) (hr : ∀ k, r ≠ .close k) (k : Handle) :
    r.withHandles us ≠ .close k := by
  unfold Request.withHandles
  split <;> simp_all

/-- In the state `s` the focus lies on the context `d`, and other contexts can be put in its
place. -/
def Focus.On {σ : Type} (focus : Focus σ) (d : DebugContext) (s : σ) : Prop :=
  ∃ put : DebugContext → σ, put d = s ∧
    ∀ {α : Type} (f : DebugContext → α × DebugContext) (d' : DebugContext),
      focus.update f (put d') = ((f d').1, put (f d').2)

theorem Focus.first_on (c : DebugContext × τ) : Focus.first.On c.1 c :=
  ⟨(·, c.2), rfl, fun _ _ => rfl⟩

namespace DebugContext

/-- A context beside the image of a universal state. -/
def along (f : τ' → τ) (c : DebugContext × τ') : DebugContext × τ := (c.1, f c.2)

/-- An answer with a context beside the image of a universal state. -/
def answered {α : Type} (f : τ' → τ) (p : α × DebugContext × τ') : α × DebugContext × τ :=
  (p.1, along f p.2)

/-- A check answers what the table answers, whatever is done when it fails. -/
theorem fst_check {σ : Type} {focus : Focus σ} {d : DebugContext} {s : σ} (hd : focus.On d s)
    (onFail : DebugError → σ → σ) (op : HandleTable → Except DebugError Handle × HandleTable) :
    (check focus onFail op s).1 = (op d.table).1 := by
  obtain ⟨put, rfl, hupdate⟩ := hd
  rw [check, hupdate, onTable]
  cases op d.table with
  | mk a table => cases a <;> rfl

/-- A table operation on the context, with its universal context beside it. -/
theorem check_first (onFail : DebugError → DebugContext × τ → DebugContext × τ)
    (op : HandleTable → Except DebugError Handle × HandleTable) (d : DebugContext) (u : τ) :
    check .first onFail op (d, u) = match op d.table with
      | (.ok h, table) => (.ok h, { d with table }, u)
      | (.error e, table) => (.error e, onFail e ({ d with table }, u)) := by
  simp only [check, Focus.first, onTable]
  cases op d.table with
  | mk a table => cases a <;> rfl

/-- Closing a handle, and then the handle it stood for. -/
theorem closeThrough_first (U : Universal τ)
    (onFail : DebugError → DebugContext × τ → DebugContext × τ) (h : Handle) (d : DebugContext)
    (u : τ) :
    closeThrough .first U.beside onFail h (d, u) = match d.table.close h with
      | (.error e, table) => (.error (.check e), onFail e ({ d with table }, u))
      | (.ok uh, table) =>
        if uh.isNull then (.ok .closed, { d with table }, u)
        else U.beside (.close uh) ({ d with table }, u) := by
  rw [closeThrough, checkClose, check_first]
  generalize d.table.close h = p
  obtain ⟨a, table⟩ := p
  cases a with
  | ok uh => rfl
  | error e => rfl

/-- Resolving a handle changes nothing but what its report does. -/
theorem checkResolve_first (onFail : DebugError → DebugContext × τ → DebugContext × τ) (h : Handle)
    (c : DebugContext × τ) :
    (∃ u, checkResolve .first onFail h c = (.ok u, c)) ∨
    (∃ e, checkResolve .first onFail h c = (.error e, onFail e c)) := by
  obtain ⟨d, s⟩ := c
  rw [checkResolve, check_first]
  cases d.table.resolve h with
  | ok u => exact .inl ⟨u, rfl⟩
  | error e => exact .inr ⟨e, rfl⟩

/-- A failed check goes to the log, and nothing else changes. -/
theorem note_first (e : DebugError) (d : DebugContext) (u : τ) :
    note .first e (d, u) = (d.record e, u) := rfl

@[simp] theorem record_table (d : DebugContext) (e : DebugError) :
    (d.record e).table = d.table := by
  simp only [record]
  split <;> rfl

@[simp] theorem record_hook (d : DebugContext) (e : DebugError) :
    (d.record e).hook = d.hook := by
  simp only [record]
  split <;> rfl

theorem report_first (U : Universal (DebugContext × τ)) (e : DebugError) (d : DebugContext)
    (u : τ) :
    report .first U e (d, u) =
      ((d.record e).hook.getD []).foldl (performNoted .first U) (d.record e, u) := rfl

/-- No hook acts when a check fails: there is none, or it only watches. -/
def Idle (d : DebugContext) : Prop := d.hook.getD [] = []

theorem idle_of_hook_none {d : DebugContext} (h : d.hook = none) : d.Idle := by
  unfold Idle
  rw [h]
  rfl

theorem Idle.record {d : DebugContext} (h : d.Idle) (e : DebugError) : (d.record e).Idle := by
  unfold Idle
  rw [record_hook]
  exact h

/-- A failed check leaves its mark in the log, and in the notes of a hook that only watches. -/
theorem report_of_idle (U : Universal (DebugContext × τ)) (e : DebugError) {d : DebugContext}
    (h : d.Idle) (u : τ) : report .first U e (d, u) = (d.record e, u) := by
  rw [report_first, h.record e]
  rfl

/-- Without a hook a failed check leaves its mark in the log only. -/
theorem report_of_hook_none (U : Universal (DebugContext × τ)) (e : DebugError) {d : DebugContext}
    (hhook : d.hook = none) (u : τ) : report .first U e (d, u) = (d.record e, u) :=
  report_of_idle U e (idle_of_hook_none hhook) u

/-- Resolving handles up to the first that fails changes nothing but what its report does. -/
theorem resolveAll_first (U : Universal (DebugContext × τ)) (hs : List Handle) (d : DebugContext)
    (u : τ) :
    resolveAll .first U hs (d, u) = match hs.mapM d.table.resolve with
      | .ok us => (.ok us, d, u)
      | .error e => (.error e, report .first U e (d, u)) := by
  induction hs with
  | nil => rfl
  | cons h hs ih =>
    simp only [resolveAll, resolve, checkResolve, check_first, List.mapM_cons]
    cases d.table.resolve h with
    | error e => rfl
    | ok v =>
      simp only [ih]
      cases hs.mapM d.table.resolve <;> rfl

/-- A call other than `close` is passed on once all its handles resolve. -/
theorem respond_first (U : Universal (DebugContext × τ)) {r : Request} (hr : ∀ k, r ≠ .close k)
    (d : DebugContext) (u : τ) :
    respond .first U r (d, u) = match r.handles.mapM d.table.resolve with
      | .ok us => forward .first U (r.withHandles us) (d, u)
      | .error e => (.error (.check e), report .first U e (d, u)) := by
  rw [respond_of_ne_close hr, resolveAll_first]
  cases r.handles.mapM d.table.resolve <;> rfl

/-- The answer of a call whose handle is wrapped is what the table answers. -/
theorem fst_wrap (U : Universal τ) (uh : Handle) (c : DebugContext × τ) :
    (wrap .first U.beside uh c).1 =
      ((c.1.table.openHandle uh).1.mapError .check).map .handle := by
  have hopen : (openHandle .first U.beside uh c).1 = (c.1.table.openHandle uh).1 :=
    fst_check (Focus.first_on c) _ _
  rw [wrap]
  generalize openHandle .first U.beside uh c = p at hopen
  obtain ⟨a, c'⟩ := p
  rw [← hopen]
  cases a with
  | ok h => rfl
  | error e => rfl

/-- A call that is passed on brings a handle, which is wrapped, or another answer, which stays. -/
theorem forward_first_cases (U : Universal τ) (r : Request) (d : DebugContext) (u : τ) :
    (∃ uh u', U r u = (.ok (.handle uh), u') ∧
      forward .first U.beside r (d, u) = wrap .first U.beside uh (d, u')) ∨
    (∃ a u', U r u = (a, u') ∧ (∀ uh, a ≠ .ok (.handle uh)) ∧
      forward .first U.beside r (d, u) = (a, d, u')) := by
  cases hU : U r u with
  | mk a u' =>
    have hbeside : U.beside r (d, u) = (a, d, u') := by rw [Universal.beside, hU]
    by_cases hhandle : ∃ uh, a = .ok (.handle uh)
    · obtain ⟨uh, rfl⟩ := hhandle
      exact .inl ⟨uh, u', rfl, forward_handle hbeside⟩
    · have hother : ∀ uh, a ≠ .ok (.handle uh) := fun uh heq => hhandle ⟨uh, heq⟩
      exact .inr ⟨a, u', rfl, hother, forward_other hbeside hother⟩

section

/-- A map of universal states along which two universal contexts answer alike. -/
def Agree (f : τ' → τ) (U' : Universal τ') (U : Universal τ) : Prop :=
  ∀ r u, U r (f u) = ((U' r u).1, f (U' r u).2)

variable {f : τ' → τ} {U' : Universal τ'} {U : Universal τ} (hf : Agree f U' U)

include hf

/-- The context is the same on both sides, and all that reaches the universal states is calls. -/
private theorem alike_along : Alike (fun _ a a' => a = a') (Focus.first (τ := τ)) U.beside
    (Focus.first (τ := τ')) U'.beside fun c c' => c = along f c' where
  conveys := .eq
  hook := by
    rintro _ c rfl
    rfl
  table := by
    rintro op _ c rfl
    exact ⟨rfl, rfl⟩
  record := by
    rintro e _ c rfl
    rfl
  noteHook := by
    rintro e _ c rfl
    rfl
  noteCall := by
    rintro _ a _ rfl _ c rfl
    rfl
  universal := by
    rintro r _ ⟨d, u⟩ rfl
    have hcall := hf r u
    exact ⟨congrArg Prod.fst hcall, congrArg (fun p => (d, p.2)) hcall⟩

theorem respond_along (r : Request) (c : DebugContext × τ') :
    respond .first U.beside r (along f c) =
      answered f (respond .first U'.beside r c) := by
  obtain ⟨ha, hc⟩ := (alike_along hf).respond rfl r
  exact Prod.ext ha hc

theorem openHandle_along (uh : Handle) (c : DebugContext × τ') :
    openHandle .first U.beside uh (along f c) =
      answered f (openHandle .first U'.beside uh c) := by
  obtain ⟨ha, hc⟩ := (alike_along hf).openHandle rfl uh
  exact Prod.ext ha hc

theorem resolve_along (h : Handle) (c : DebugContext × τ') :
    resolve .first U.beside h (along f c) = answered f (resolve .first U'.beside h c) := by
  obtain ⟨ha, hc⟩ := (alike_along hf).resolve rfl h
  exact Prod.ext ha hc

theorem closeHandle_along (h : Handle) (c : DebugContext × τ') :
    closeHandle .first U.beside h (along f c) =
      answered f (closeHandle .first U'.beside h c) := by
  obtain ⟨ha, hc⟩ := (alike_along hf).closeHandle rfl h
  exact Prod.ext ha hc

theorem apply_along (op : ContextOp) (c : DebugContext × τ') :
    ContextOp.apply U (along f c) op = along f (ContextOp.apply U' c op) := by
  cases op with
  | call r => simp only [ContextOp.apply, respond_along hf]; rfl
  | resolve h => simp only [ContextOp.apply, resolve_along hf]; rfl
  | closeHandle h => simp only [ContextOp.apply, closeHandle_along hf]; rfl
  | setClosedQueueMax max => rfl
  | newGeneration => rfl
  | setHook hook => rfl

theorem run_along (ops : List ContextOp) (c : DebugContext × τ') :
    ContextOp.run U (along f c) ops = along f (ContextOp.run U' c ops) := by
  induction ops generalizing c with
  | nil => rfl
  | cons op ops ih => rw [ContextOp.run_cons, ContextOp.run_cons, apply_along hf, ih]

theorem usesCloseHandle_along (op : ContextOp) (c : DebugContext × τ') :
    ContextOp.usesCloseHandle U (along f c) op = ContextOp.usesCloseHandle U' c op := by
  cases op with
  | call r =>
    simp only [ContextOp.usesCloseHandle, ContextOp.failsCheck, respond_along hf]; rfl
  | resolve h =>
    simp only [ContextOp.usesCloseHandle, ContextOp.failsCheck, resolve_along hf]; rfl
  | _ => rfl

theorem runUsesCloseHandle_along (ops : List ContextOp) (c : DebugContext × τ') :
    ContextOp.runUsesCloseHandle U (along f c) ops = ContextOp.runUsesCloseHandle U' c ops := by
  induction ops generalizing c with
  | nil => rfl
  | cons op ops ih =>
    simp only [ContextOp.runUsesCloseHandle, usesCloseHandle_along hf, apply_along hf, ih]

end

theorem agree_recorded (U : Universal τ) : Agree Prod.fst U.recorded U := fun _ _ => rfl

/-- Recording the calls on the universal context changes nothing else. -/
theorem run_recorded (U : Universal τ) (d : DebugContext) (u : τ) (ops : List ContextOp) :
    let c := ContextOp.run U.recorded (d, u, []) ops
    ContextOp.run U (d, u) ops = (c.1, c.2.1) :=
  run_along (agree_recorded U) ops (d, u, [])

end DebugContext

end HandleGuard
