import HandleGuard.Proofs.Context.Run

/-!
# The accounts of a debug context

A universal handle comes to a debug context in the answer to a call, or by `openHandle`. It leaves
with a `close` that the context passes on, or by `closeHandle`. This module says how to read the
four from a run: calls and their answers are on record, operations have answers, and a hook writes
the results of its actions down.

The context need not be alone: others may use its universal context at any time.
-/

namespace HandleGuard

variable {τ α : Type}

/-- Calls on a universal context with their answers, latest last. -/
abbrev CallRecord := List (Request × Except CallError Reply)

namespace CallRecord

/-- The handles that calls were answered with. These calls are `dup`, `fromInt` and `invoke`; no
handle comes with a `close`. -/
def received (calls : CallRecord) : List Handle :=
  calls.filterMap fun
    | (.close _, _) => none
    | (_, .ok (.handle k)) => some k
    | _ => none

/-- The handles passed to `close`, whatever the answer. -/
def closes (calls : CallRecord) : List Handle :=
  calls.filterMap fun
    | (.close k, _) => some k
    | _ => none

theorem received_append (calls calls' : CallRecord) :
    received (calls ++ calls') = received calls ++ received calls' :=
  List.filterMap_append

theorem closes_append (calls calls' : CallRecord) :
    closes (calls ++ calls') = closes calls ++ closes calls' :=
  List.filterMap_append

end CallRecord

/-- An action on a debug context with its result. -/
abbrev Deed := HookAction × Except CallError Handle

namespace Deed

/-- The universal handles that `openHandle` brought in. -/
def opened (deeds : List Deed) : List Handle :=
  deeds.filterMap fun
    | (.openHandle k, .ok _) => some k
    | _ => none

/-- The universal handles that `closeHandle` gave out. -/
def handedOut (deeds : List Deed) : List Handle :=
  deeds.filterMap fun
    | (.closeHandle _, .ok k) => some k
    | _ => none

/-- The universal handles that were closed behind the back of the context. -/
def closedDirectly (deeds : List Deed) : List Handle :=
  deeds.filterMap fun
    | (.universalClose k, _) => some k
    | _ => none

/-- The debug handles that `openHandle` issued. -/
def issued (deeds : List Deed) : List Handle :=
  deeds.filterMap fun
    | (.openHandle _, .ok h) => some h
    | _ => none

end Deed

/-- The result that a hook wrote down. -/
def HookEvent.result? : HookEvent → Option (Except CallError Handle)
  | called _ => none
  | performed r => some r

/-- The results that hooks wrote down, latest last. -/
def DebugContext.hookResults (d : DebugContext) : List (Except CallError Handle) :=
  d.hookLog.toList.filterMap HookEvent.result?

namespace DebugContext

/-- A failed check leaves no result in the notes. -/
theorem hookResults_record (d : DebugContext) (e : DebugError) :
    (d.record e).hookResults = d.hookResults := by
  simp only [record, hookResults]
  split
  · simp [noteHook, HookEvent.result?]
  · rfl

theorem hookResults_performed (d : DebugContext) (r : Except CallError Handle) :
    (d.noteHook (.performed r)).hookResults = d.hookResults ++ [r] := by
  rw [hookResults, noteHook, Array.toList_push, List.filterMap_append]
  rfl

end DebugContext

/-- The handle of an answer. -/
def answeredHandle (a : Except CallError Reply) : List Handle :=
  match a with
  | .ok (.handle h) => [h]
  | _ => []

/-- An operation on a debug context and its universal context. -/
inductive SharedOp (τ : Type) where
  | own (op : ContextOp)
  | openHandle (uh : Handle)
  /-- Others use the universal context. -/
  | outside (f : τ → τ)

namespace SharedOp

open DebugContext

/-- The two contexts after an operation. -/
def apply (U : Universal τ) (c : DebugContext × τ) : SharedOp τ → DebugContext × τ
  | own op => op.apply U c
  | openHandle uh => (DebugContext.openHandle .first U.beside uh c).2
  | outside f => (c.1, f c.2)

/-- The deed that an operation is by itself. -/
def ownDeeds (U : Universal τ) (c : DebugContext × τ) : SharedOp τ → List Deed
  | own (.closeHandle h) =>
    [(.closeHandle h, (DebugContext.closeHandle .first U.beside h c).1.mapError .check)]
  | openHandle uh =>
    [(.openHandle uh, (DebugContext.openHandle .first U.beside uh c).1.mapError .check)]
  | _ => []

/-- The deeds of an operation: its own, and those of the hook if it was called. A hook that was
called has written down a result for each of its actions. -/
def deeds (U : Universal τ) (c : DebugContext × τ) (op : SharedOp τ) : List Deed :=
  op.ownDeeds U c ++
    (c.1.hook.getD []).zip ((op.apply U c).1.hookResults.drop c.1.hookResults.length)

/-- The debug handles that an operation issues. -/
def issued (U : Universal τ) (c : DebugContext × τ) (op : SharedOp τ) : List Handle :=
  (match op with
    | own (.call r) => answeredHandle (respond .first U.beside r c).1
    | _ => []) ++ Deed.issued (op.deeds U c)

/-- The state after a run. -/
def run (U : Universal τ) (c : DebugContext × τ) (ops : List (SharedOp τ)) : DebugContext × τ :=
  ops.foldl (apply U) c

/-- What `f` says of the operations of a run, in their order. -/
def collect (f : DebugContext × τ → SharedOp τ → List α) (U : Universal τ) :
    DebugContext × τ → List (SharedOp τ) → List α
  | _, [] => []
  | c, op :: ops => f c op ++ collect f U (op.apply U c) ops

/-- The deeds of a run. -/
def runDeeds (U : Universal τ) (c : DebugContext × τ) (ops : List (SharedOp τ)) : List Deed :=
  collect (fun c op => op.deeds U c) U c ops

/-- The debug handles that a run issues. -/
def runIssued (U : Universal τ) (c : DebugContext × τ) (ops : List (SharedOp τ)) : List Handle :=
  collect (fun c op => op.issued U c) U c ops

@[simp] theorem run_nil (U : Universal τ) (c : DebugContext × τ) : run U c [] = c := rfl

@[simp] theorem run_cons (U : Universal τ) (c : DebugContext × τ) (op : SharedOp τ)
    (ops : List (SharedOp τ)) : run U c (op :: ops) = run U (op.apply U c) ops := rfl

/-! ### Recording changes nothing else -/

/-- The same operation beside a record. -/
def recorded : SharedOp τ → SharedOp (τ × CallRecord)
  | own op => own op
  | openHandle uh => openHandle uh
  | outside f => outside fun u => (f u.1, u.2)

variable {U : Universal τ}

theorem apply_recorded (op : SharedOp τ) (c : DebugContext × τ × CallRecord) :
    op.apply U (along Prod.fst c) = along Prod.fst (op.recorded.apply U.recorded c) := by
  cases op with
  | own op => exact apply_along (agree_recorded U) op c
  | openHandle uh => simp only [recorded, apply, openHandle_along (agree_recorded U)]; rfl
  | outside f => rfl

theorem ownDeeds_recorded (op : SharedOp τ) (c : DebugContext × τ × CallRecord) :
    op.ownDeeds U (along Prod.fst c) = op.recorded.ownDeeds U.recorded c := by
  cases op with
  | own op =>
    cases op with
    | closeHandle h => simp only [recorded, ownDeeds, closeHandle_along (agree_recorded U)]; rfl
    | _ => rfl
  | openHandle uh => simp only [recorded, ownDeeds, openHandle_along (agree_recorded U)]; rfl
  | outside f => rfl

theorem deeds_recorded (op : SharedOp τ) (c : DebugContext × τ × CallRecord) :
    op.deeds U (along Prod.fst c) = op.recorded.deeds U.recorded c := by
  simp only [deeds, ownDeeds_recorded, apply_recorded]
  rfl

theorem issued_recorded (op : SharedOp τ) (c : DebugContext × τ × CallRecord) :
    op.issued U (along Prod.fst c) = op.recorded.issued U.recorded c := by
  simp only [issued, deeds_recorded]
  cases op with
  | own op =>
    cases op with
    | call r => simp only [recorded, respond_along (agree_recorded U)]; rfl
    | _ => rfl
  | _ => rfl

theorem run_recorded (ops : List (SharedOp τ)) (c : DebugContext × τ × CallRecord) :
    run U (along Prod.fst c) ops = along Prod.fst (run U.recorded c (ops.map recorded)) := by
  induction ops generalizing c with
  | nil => rfl
  | cons op ops ih => rw [List.map_cons, run_cons, run_cons, apply_recorded, ih]

/-- What is read from a run does not depend on the record, if it does not for each operation. -/
theorem collect_recorded {f : DebugContext × τ → SharedOp τ → List α}
    {f' : DebugContext × τ × CallRecord → SharedOp (τ × CallRecord) → List α}
    (hf : ∀ c op, f (along Prod.fst c) op = f' c op.recorded) (ops : List (SharedOp τ))
    (c : DebugContext × τ × CallRecord) :
    collect f U (along Prod.fst c) ops = collect f' U.recorded c (ops.map recorded) := by
  induction ops generalizing c with
  | nil => rfl
  | cons op ops ih => rw [List.map_cons, collect, collect, apply_recorded, hf, ih]

theorem runDeeds_recorded (ops : List (SharedOp τ)) (c : DebugContext × τ × CallRecord) :
    runDeeds U (along Prod.fst c) ops = runDeeds U.recorded c (ops.map recorded) :=
  collect_recorded (fun c op => deeds_recorded op c) ops c

theorem runIssued_recorded (ops : List (SharedOp τ)) (c : DebugContext × τ × CallRecord) :
    runIssued U (along Prod.fst c) ops = runIssued U.recorded c (ops.map recorded) :=
  collect_recorded (fun c op => issued_recorded op c) ops c

end SharedOp

end HandleGuard
