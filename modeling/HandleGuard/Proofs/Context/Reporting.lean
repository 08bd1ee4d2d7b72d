import HandleGuard.Proofs.Context.Timeline
import HandleGuard.Store

/-!
# Hooks cannot disturb the reporting of errors

A hook runs in the middle of an operation and may change the table, the universal context and the log
that the operation is working on. `Fails` says which check of an operation fails, as a matter of the
state before. What happens then is one timeline (`FailedCheck.timeline`): up to the failed check and
its report; what the hook does; and the close of a handle for which none could be issued.

* `CheckedOp.answer`, `perform_answer`   the answer to an operation, whatever the hook is
* `perform_fails`                        where a check fails, the operation is its timeline
* `perform_passes`                       else nothing is logged and the hook is not called
* `hooks_cannot_disturb_reports`         what follows for the log, the hook and the calls passed on
-/

namespace HandleGuard

open DebugContext Incident

variable {τ : Type}

/-- An operation on a debug context that checks handles. -/
inductive CheckedOp where
  | call (r : Request)
  | resolve (h : Handle)
  | closeHandle (h : Handle)
  | openHandle (uh : Handle)

/-- A check that fails in the course of an operation. -/
structure FailedCheck where
  /-- The calls that were passed on before. -/
  sent : List Request
  check : TableOp
  error : DebugError
  /-- The calls that are passed on afterwards, to undo the ones before. -/
  undo : List Request

/-- What the operation itself makes happen up to the report of the failed check. -/
def FailedCheck.failing (f : FailedCheck) (d : DebugContext) : List Incident :=
  f.sent.map .passedOn ++ d.checking f.check

/-- All that happens in an operation with a failed check, when the hook performs `actions`. -/
def FailedCheck.timeline (f : FailedCheck) (U : Universal τ) (c : DebugContext × τ)
    (actions : List HookAction) : List Incident :=
  f.failing c.1 ++ hookIncidents U (replay U (f.failing c.1) c) actions ++ f.undo.map .passedOn

namespace CheckedOp

/-- The handle that one of the context's own operations answers, as a call would answer it. -/
private def handed (p : Except DebugError Handle × DebugContext × τ) :
    Except CallError Reply × DebugContext × τ :=
  ((p.1.mapError .check).map .handle, p.2)

/-- The answer to an operation, and both contexts afterwards. -/
def perform (U : Universal τ) (c : DebugContext × τ) :
    CheckedOp → Except CallError Reply × DebugContext × τ
  | call r => respond .first U.beside r c
  | resolve h => handed (DebugContext.resolve .first U.beside h c)
  | closeHandle h => handed (DebugContext.closeHandle .first U.beside h c)
  | openHandle uh => handed (DebugContext.openHandle .first U.beside uh c)

/-- The check of an operation that fails, told from the state before the operation. -/
inductive Fails (U : Universal τ) (c : DebugContext × τ) : CheckedOp → FailedCheck → Prop
  | resolve {h : Handle} {e : DebugError} (he : c.1.table.resolve h = .error e) :
    Fails U c (.resolve h) ⟨[], .resolve h, e, []⟩
  | closeHandle {h : Handle} {e : DebugError} (he : (c.1.table.close h).1 = .error e) :
    Fails U c (.closeHandle h) ⟨[], .close h, e, []⟩
  | openHandle {uh : Handle} {e : DebugError} (he : (c.1.table.openHandle uh).1 = .error e) :
    Fails U c (.openHandle uh) ⟨[], .openHandle uh, e, []⟩
  | close {h : Handle} {e : DebugError} (he : (c.1.table.close h).1 = .error e) :
    Fails U c (.call (.close h)) ⟨[], .close h, e, []⟩
  /-- The first argument of a call that does not resolve. -/
  | argument {r : Request} {before after : List Handle} {h : Handle} {e : DebugError}
    (hr : ∀ k, r ≠ .close k) (hargs : r.handles = before ++ h :: after)
    (hbefore : ∀ k ∈ before, ∃ uk, c.1.table.resolve k = .ok uk)
    (he : c.1.table.resolve h = .error e) :
    Fails U c (.call r) ⟨[], .resolve h, e, []⟩
  /-- The handle that the universal context answered, when no debug handle can be issued for it. -/
  | result {r : Request} {us : List Handle} {uh : Handle} {e : DebugError}
    (hr : ∀ k, r ≠ .close k) (hres : r.handles.mapM c.1.table.resolve = .ok us)
    (hU : (U (r.withHandles us) c.2).1 = .ok (.handle uh))
    (he : (c.1.table.openHandle uh).1 = .error e) :
    Fails U c (.call r) ⟨[r.withHandles us], .openHandle uh, e, [.close uh]⟩

/-- The answer to an operation, told from the state before it. The hook has no part in it. -/
def answer (U : Universal τ) (c : DebugContext × τ) : CheckedOp → Except CallError Reply
  | resolve h => ((c.1.table.resolve h).mapError .check).map .handle
  | closeHandle h => ((c.1.table.close h).1.mapError .check).map .handle
  | openHandle uh => ((c.1.table.openHandle uh).1.mapError .check).map .handle
  | call (.close h) =>
    match (c.1.table.close h).1 with
    | .error e => .error (.check e)
    | .ok uh => if uh.isNull then .ok .closed else (U (.close uh) c.2).1
  | call r =>
    match r.handles.mapM c.1.table.resolve with
    | .error e => .error (.check e)
    | .ok us =>
      match (U (r.withHandles us) c.2).1 with
      | .ok (.handle uh) => ((c.1.table.openHandle uh).1.mapError .check).map .handle
      | a => a

variable {U : Universal τ} {c : DebugContext × τ} {actions : List HookAction} {op : CheckedOp}
  {f : FailedCheck}

/-! ### The answer -/

private theorem answer_call {r : Request} (hr : ∀ k, r ≠ .close k) :
    answer U c (.call r) = match r.handles.mapM c.1.table.resolve with
      | .error e => .error (.check e)
      | .ok us =>
        match (U (r.withHandles us) c.2).1 with
        | .ok (.handle uh) => ((c.1.table.openHandle uh).1.mapError .check).map .handle
        | a => a := by
  cases r with
  | close k => exact absurd rfl (hr k)
  | _ => rfl

/-- The answer to an operation is told by the state before it. -/
theorem perform_answer (U : Universal τ) (c : DebugContext × τ) (op : CheckedOp) :
    (op.perform U c).1 = op.answer U c := by
  have handed (top : HandleTable → Except DebugError Handle × HandleTable) :
      ((check .first (report .first U.beside) top c).1.mapError .check).map Reply.handle =
        ((top c.1.table).1.mapError CallError.check).map .handle := by
    rw [fst_check (Focus.first_on c)]
  cases op with
  | resolve h => exact handed fun t => (t.resolve h, t)
  | closeHandle h => exact handed (·.close h)
  | openHandle uh => exact handed (·.openHandle uh)
  | call r =>
    obtain ⟨k, rfl⟩ | hr := r.eq_close_or_ne
    · obtain ⟨d, u⟩ := c
      rw [perform, answer, respond, closeThrough_first]
      dsimp only
      generalize d.table.close k = p
      obtain ⟨a, t⟩ := p
      cases a with
      | error e => rfl
      | ok uh =>
        dsimp only
        split
        · rfl
        · rfl
    · obtain ⟨d, u⟩ := c
      rw [answer_call hr, perform, respond_first U.beside hr]
      cases r.handles.mapM d.table.resolve with
      | error e => rfl
      | ok us =>
        dsimp only
        obtain ⟨uh, u', hU, hforward⟩ | ⟨a, u', hU, hother, hforward⟩ :=
          forward_first_cases U (r.withHandles us) d u
        · rw [hforward, hU]
          exact fst_wrap U uh (d, u')
        · rw [hforward, hU]
          dsimp only
          split
          · exact absurd rfl (hother _)
          · rfl

/-- The failed check and the answer agree. -/
theorem Fails.answer_eq (hf : op.Fails U c f) : op.answer U c = .error (.check f.error) := by
  cases hf with
  | resolve he => rw [answer, he]; rfl
  | closeHandle he => rw [answer, he]; rfl
  | openHandle he => rw [answer, he]; rfl
  | close he => rw [answer, he]
  | argument hr hargs hbefore he => rw [answer_call hr, hargs, List.mapM_eq_error hbefore he]
  | result hr hres hU he =>
    rw [answer_call hr, hres]
    dsimp only
    rw [hU]
    dsimp only
    rw [he]
    rfl

/-! ### Failed checks -/

/-- A failed check before which nothing was passed on, and after which nothing is undone. -/
private theorem timeline_alone (check : TableOp) (e : DebugError) :
    (⟨[], check, e, []⟩ : FailedCheck).timeline U c actions =
      c.1.checking check ++ hookIncidents U (replay U (c.1.checking check) c) actions := by
  simp [FailedCheck.timeline, FailedCheck.failing]

/-- A check that fails, with its report. -/
private theorem check_fails (hhook : c.1.hook = some actions)
    {top : HandleTable → Except DebugError Handle × HandleTable} (check : TableOp)
    (htop : ∀ t, top t = (t.answerTo check, t.perform check)) {e : DebugError}
    (he : c.1.table.answerTo check = .error e) :
    DebugContext.check .first (report .first U.beside) top c =
      (.error e, replay U ((⟨[], check, e, []⟩ : FailedCheck).timeline U c actions) c) := by
  have hreport := report_replay (U := U) (c := Incident.apply U c (.checked check)) hhook e
  rw [check_replay (U := U) _ htop, he, timeline_alone, replay_append, checking, he]
  exact congrArg (Prod.mk _) hreport

/-- An operation with a failed check answers the error, and what happens is the timeline. -/
theorem perform_fails (hhook : c.1.hook = some actions) (hf : op.Fails U c f) :
    op.perform U c = (.error (.check f.error), replay U (f.timeline U c actions) c) := by
  refine Prod.ext ((perform_answer U c op).trans hf.answer_eq) ?_
  cases hf with
  | @resolve h e he =>
    have hcheck := check_fails (U := U) hhook (.resolve h) (fun _ => rfl) he
    have hafter := congrArg Prod.snd hcheck
    exact hafter
  | @closeHandle h e he =>
    have hcheck := check_fails (U := U) hhook (.close h) (fun _ => rfl) he
    have hafter := congrArg Prod.snd hcheck
    exact hafter
  | @openHandle uh e he =>
    have hcheck := check_fails (U := U) hhook (.openHandle uh) (fun _ => rfl) he
    have hafter := congrArg Prod.snd hcheck
    exact hafter
  | @close h e he =>
    have hcheck : checkClose .first (report .first U.beside) h c = _ :=
      check_fails (U := U) hhook (.close h) (fun _ => rfl) he
    rw [perform, respond, closeThrough, hcheck]
  | @argument r before after h e hr hargs hbefore he =>
    obtain ⟨d, u⟩ := c
    have hcheck : DebugContext.resolve .first U.beside h (d, u) = _ :=
      check_fails (U := U) hhook (.resolve h) (fun _ => rfl) he
    have hreport : DebugContext.resolve .first U.beside h (d, u) =
        (.error e, report .first U.beside e (d, u)) := by
      rw [DebugContext.resolve, checkResolve, check_first, he]
    rw [perform, respond_first U.beside hr, hargs, List.mapM_eq_error hbefore he]
    have hafter := congrArg Prod.snd (hreport.symm.trans hcheck)
    exact hafter
  | @result r us uh e hr hres hU he =>
    obtain ⟨d, u⟩ := c
    -- The call was passed on, so the check finds the universal context in a later state.
    generalize hcall : U (r.withHandles us) u = p at hU
    obtain ⟨a, u'⟩ := p
    obtain rfl : a = .ok (.handle uh) := hU
    have hbeside : U.beside (r.withHandles us) (d, u) = (.ok (.handle uh), d, u') := by
      rw [Universal.beside, hcall]
    have hcheck : DebugContext.openHandle .first U.beside uh (d, u') = _ :=
      check_fails (U := U) (c := (d, u')) hhook (.openHandle uh) (fun _ => rfl) he
    have hsent : replay U ((⟨[r.withHandles us], .openHandle uh, e, [.close uh]⟩ :
        FailedCheck).failing (d, u).1) (d, u) = replay U (d.checking (.openHandle uh)) (d, u') := by
      show replay U (d.checking (.openHandle uh)) (d, (U (r.withHandles us) u).2) = _
      rw [hcall]
    rw [FailedCheck.timeline, replay_append, replay_append, hsent, perform,
      respond_first U.beside hr, hres]
    dsimp only
    rw [forward_handle hbeside, wrap, hcheck, timeline_alone, replay_append]
    rfl

/-! ### No failed check -/

/-- The log and the notes of the hook are as before. -/
def Unreported (d d' : DebugContext) : Prop := d'.log = d.log ∧ d'.hookLog = d.hookLog

private theorem check_passes (onFail : DebugError → DebugContext × τ → DebugContext × τ)
    {top : HandleTable → Except DebugError Handle × HandleTable} {h : Handle}
    (hok : (top c.1.table).1 = .ok h) : Unreported c.1 (check .first onFail top c).2.1 := by
  obtain ⟨d, u⟩ := c
  rw [check_first]
  dsimp only at hok ⊢
  generalize top d.table = p at hok
  obtain ⟨a, t⟩ := p
  obtain rfl : a = .ok h := hok
  exact ⟨rfl, rfl⟩

private theorem close_passes {h : Handle} (hnone : ∀ f, ¬Fails U c (.call (.close h)) f) :
    Unreported c.1 (perform U c (.call (.close h))).2.1 := by
  obtain ⟨d, u⟩ := c
  rw [perform, respond, closeThrough_first]
  cases hclose : d.table.close h with
  | mk a t =>
    cases a with
    | error e => exact absurd (.close (congrArg Prod.fst hclose)) (hnone _)
    | ok uh =>
      dsimp only
      split
      · exact ⟨rfl, rfl⟩
      · exact ⟨rfl, rfl⟩

private theorem call_passes {r : Request} (hr : ∀ k, r ≠ .close k)
    (hnone : ∀ f, ¬Fails U c (.call r) f) : Unreported c.1 (perform U c (.call r)).2.1 := by
  obtain ⟨d, u⟩ := c
  have hargs := List.mapM_except d.table.resolve r.handles
  rw [perform, respond_first U.beside hr]
  cases hres : r.handles.mapM d.table.resolve with
  | error e =>
    rw [hres] at hargs
    obtain ⟨before, h, after, hsplit, hbefore, he⟩ := hargs
    exact absurd (.argument hr hsplit hbefore he) (hnone _)
  | ok us =>
    dsimp only
    obtain ⟨uh, u', hU, hforward⟩ | ⟨a, u', -, -, hforward⟩ :=
      forward_first_cases U (r.withHandles us) d u
    · rw [hforward, wrap, DebugContext.openHandle, checkOpen, check_first]
      cases hopen : d.table.openHandle uh with
      | mk a t =>
        cases a with
        | error e =>
          exact absurd (.result hr hres (congrArg Prod.fst hU) (congrArg Prod.fst hopen))
            (hnone _)
        | ok h => exact ⟨rfl, rfl⟩
    · rw [hforward]
      exact ⟨rfl, rfl⟩

/-- Without a failed check nothing is logged, and the hook is not called. -/
theorem perform_passes (hnone : ∀ f, ¬op.Fails U c f) : Unreported c.1 (op.perform U c).2.1 := by
  cases op with
  | call r =>
    obtain ⟨k, rfl⟩ | hr := r.eq_close_or_ne
    · exact close_passes hnone
    · exact call_passes hr hnone
  | resolve h =>
    cases hres : c.1.table.resolve h with
    | error e => exact absurd (.resolve hres) (hnone _)
    | ok u => exact check_passes _ hres
  | closeHandle h =>
    cases hclose : (c.1.table.close h).1 with
    | error e => exact absurd (.closeHandle hclose) (hnone _)
    | ok u => exact check_passes _ hclose
  | openHandle uh =>
    cases hopen : (c.1.table.openHandle uh).1 with
    | error e => exact absurd (.openHandle hopen) (hnone _)
    | ok h => exact check_passes _ hopen

/-! ### What the timeline reports -/

/-- Calls on the universal context report nothing. -/
private theorem reported_passedOn (c : DebugContext × τ) (rs : List Request) :
    Reported U c (rs.map .passedOn) [] := by
  induction rs generalizing c with
  | nil => exact .nil
  | cons r rs ih => exact .passedOn (ih _)

/-- Calls on the universal context leave the debug context alone. -/
private theorem fst_replay_passedOn (c : DebugContext × τ) (rs : List Request) :
    (replay U (rs.map .passedOn) c).1 = c.1 := by
  induction rs generalizing c with
  | nil => rfl
  | cons r rs ih => exact ih _

/-- The check that fails is indeed one that fails. -/
theorem Fails.check_eq (hf : op.Fails U c f) : c.1.table.answerTo f.check = .error f.error := by
  cases hf with
  | _ => assumption

/-- The timeline of a failed check reports each failure at once, the failed check itself first. -/
theorem Fails.reported (hf : op.Fails U c f) (actions : List HookAction) :
    ∃ nested, Reported U c (f.timeline U c actions) (f.error :: nested) := by
  have hsent : Reported U c (f.sent.map .passedOn) [] := reported_passedOn c f.sent
  have hcheck : Reported U (replay U (f.sent.map .passedOn) c) (c.1.checking f.check) [f.error] := by
    have hfst := fst_replay_passedOn (U := U) c f.sent
    generalize replay U (f.sent.map .passedOn) c = c' at hfst
    obtain ⟨d', u'⟩ := c'
    obtain rfl : d' = c.1 := hfst
    rw [checking, hf.check_eq]
    exact .failed hf.check_eq .nil
  obtain ⟨nested, hnested⟩ := Reported.actions (U := U) (replay U (f.failing c.1) c) actions
  -- The parts of the timeline in their order, each with its errors.
  refine ⟨nested, ?_⟩
  have hall := ((hsent.append hcheck).append hnested).append (reported_passedOn _ f.undo)
  rw [List.nil_append, List.singleton_append, List.append_nil] at hall
  exact hall

/-- Whatever is undone is the call that brought the handle for which none could be issued. -/
theorem Fails.undo_eq (hf : op.Fails U c f) :
    f.undo = [] ∨ ∃ uh, f.check = .openHandle uh ∧ f.undo = [.close uh] := by
  cases hf with
  | @result r us uh e => exact .inr ⟨uh, rfl, rfl⟩
  | _ => exact .inl rfl

end CheckedOp

/-- Hooks cannot disturb the reporting of errors. Take any debug context with a hook, before any
universal context. The answer to an operation does not depend on the hook. When no check of the
operation fails, nothing is logged and the hook is not called. When one fails, the operation answers
its error, and all that happens is on the timeline: what the operation did up to that check, what the
hook does then, and at most the `close` of a handle for which none could be issued. Each failed check,
the operation's or one of the hook, is logged, and then the hook is called with the same diagnostic,
once. The diagnostics are in the order in which the checks failed, the operation's first. -/
theorem hooks_cannot_disturb_reports (U : Universal τ) (d : DebugContext) (u : τ)
    (actions : List HookAction) (hhook : d.hook = some actions) (op : CheckedOp) :
    let c := (d, u)
    let p := op.perform U c
    (∀ hook, (op.perform U (d.setHook hook, u)).1 = p.1) ∧
    ((∀ f, ¬op.Fails U c f) → p.2.1.log = d.log ∧ p.2.1.hookLog = d.hookLog) ∧
    ∀ f, op.Fails U c f →
      p = (.error (.check f.error), replay U (f.timeline U c actions) c) ∧
      (f.undo = [] ∨ ∃ uh, f.check = .openHandle uh ∧ f.undo = [.close uh]) ∧
      ∃ nested, Reported U c (f.timeline U c actions) (f.error :: nested) ∧
        let diagnostics := (f.error :: nested).map (Diagnostic.ofError · d.id)
        p.2.1.hookCalls = d.hookCalls ++ diagnostics ∧
        p.2.1.log = diagnostics.foldl DiagnosticLog.push d.log ∧
        p.2.1.log.snapshot <:+ d.log.snapshot ++ diagnostics := by
  intro c p
  refine ⟨fun hook => ?_, CheckedOp.perform_passes, fun f hf => ?_⟩
  · show (op.perform U (d.setHook hook, u)).1 = (op.perform U (d, u)).1
    rw [CheckedOp.perform_answer, CheckedOp.perform_answer]
    cases op with
    | call r => cases r <;> rfl
    | _ => rfl
  · have hp : p = (.error (.check f.error), replay U (f.timeline U c actions) c) :=
      CheckedOp.perform_fails hhook hf
    obtain ⟨nested, hreported⟩ := hf.reported actions
    have hlog : p.2.1.log =
        ((f.error :: nested).map (Diagnostic.ofError · d.id)).foldl DiagnosticLog.push d.log := by
      rw [hp]
      exact hreported.log
    refine ⟨hp, hf.undo_eq, nested, hreported, ?_, hlog, ?_⟩
    · rw [hp]
      exact hreported.hookCalls
    · rw [hlog]
      exact d.log.snapshot_foldl_push_suffix _

/-- A duplicate finds the table full. The hook closes the only handle, which makes room, and then fails
to close it again. The duplicate fails all the same, and the store has no object left. -/
theorem hooks_cannot_disturb_reports_room :
    let h : Handle := ⟨0x30000001⟩
    let d : DebugContext := { (default : DebugContext) with
      table := .withCapacity 3 8 1, log := .new 8, hook := some [.close h, .close h] }
    let c := ((CheckedOp.call (.fromInt 5)).perform ObjectStore.respond (d, .empty)).2
    let p := (CheckedOp.call (.dup h)).perform ObjectStore.respond c
    p.1 = .error (.check (.tableFull 1)) ∧ p.2.1.table.openCount = 0 ∧ p.2.2.liveObjects = 0 ∧
      p.2.1.hookCalls.head? = some (.ofError (.tableFull 1) d.id) ∧
      p.2.1.log.snapshot.map Diagnostic.code = [.tableFull, .doubleClose] := by
  intro h d c p
  have hres : (Request.dup h).handles.mapM c.1.table.resolve = .ok [⟨1⟩] := by decide +kernel
  have hfails : (CheckedOp.call (.dup h)).Fails ObjectStore.respond c
      ⟨[.dup ⟨1⟩], .openHandle ⟨1⟩, .tableFull 1, [.close ⟨1⟩]⟩ :=
    .result (by simp) hres (by decide +kernel) (by decide +kernel)
  obtain ⟨-, -, hfailing⟩ := hooks_cannot_disturb_reports ObjectStore.respond c.1 c.2
    [.close h, .close h] (by decide +kernel) (.call (.dup h))
  obtain ⟨hp, -, nested, -, hcalls, -⟩ := hfailing _ hfails
  have hbefore : c.1.hookCalls = [] := by decide +kernel
  have hid : c.1.id = d.id := by decide +kernel
  refine ⟨congrArg Prod.fst hp, by decide +kernel, by decide +kernel, ?_, by decide +kernel⟩
  rw [hbefore, hid] at hcalls
  exact congrArg List.head? hcalls

end HandleGuard
