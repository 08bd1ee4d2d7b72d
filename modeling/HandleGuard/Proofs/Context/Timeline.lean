import HandleGuard.Proofs.Context.Run
import HandleGuard.Proofs.Table.Run
import HandleGuard.Proofs.Diagnostic.Log

/-!
# What happens on a debug context while a hook acts

A hook may call back into its context, and these calls may fail and call the hook again. A timeline
lists all that happens on the context meanwhile, one incident at a time: checks on the table, entries
in the log, calls of the hook, results that it writes down, and calls on the universal context.
Replaying a timeline gives the state.

* `HookAction.incidents`   what an action of a hook makes happen, read off the state it finds
* `Reported`               a timeline on which every failed check is logged and handed to the hook at
                           once, and nothing else is
* `report_replay`          a report is the entry, the call of the hook, and what its actions make happen
-/

namespace HandleGuard

variable {τ : Type}

/-- One thing that happens to a debug context or to its universal context. -/
inductive Incident where
  /-- A checked operation on the table, which may fail. -/
  | checked (op : TableOp)
  /-- The log takes a diagnostic. -/
  | logged (x : Diagnostic)
  /-- The hook is called. -/
  | called (x : Diagnostic)
  /-- The hook writes the result of an action down. -/
  | performed (r : Except CallError Handle)
  /-- A call is passed on to the universal context. -/
  | passedOn (r : Request)

namespace Incident

/-- Both contexts after an incident. -/
def apply (U : Universal τ) (c : DebugContext × τ) : Incident → DebugContext × τ
  | checked op => ({ c.1 with table := c.1.table.perform op }, c.2)
  | logged x => ({ c.1 with log := c.1.log.push x }, c.2)
  | called x => (c.1.noteHook (.called x), c.2)
  | performed r => (c.1.noteHook (.performed r), c.2)
  | passedOn r => (c.1, (U r c.2).2)

/-- Both contexts after a timeline. -/
def replay (U : Universal τ) (timeline : List Incident) (c : DebugContext × τ) : DebugContext × τ :=
  timeline.foldl (apply U) c

@[simp] theorem replay_nil (U : Universal τ) (c : DebugContext × τ) : replay U [] c = c := rfl

@[simp] theorem replay_cons (U : Universal τ) (i : Incident) (timeline : List Incident)
    (c : DebugContext × τ) : replay U (i :: timeline) c = replay U timeline (apply U c i) := rfl

@[simp] theorem replay_append (U : Universal τ) (timeline timeline' : List Incident)
    (c : DebugContext × τ) :
    replay U (timeline ++ timeline') c = replay U timeline' (replay U timeline c) :=
  List.foldl_append

/-- Whose context it is and which hook it has does not change. -/
theorem apply_frame (U : Universal τ) (c : DebugContext × τ) (i : Incident) :
    (apply U c i).1.id = c.1.id ∧ (apply U c i).1.hook = c.1.hook := by
  cases i with
  | _ => exact ⟨rfl, rfl⟩

theorem replay_frame (U : Universal τ) (timeline : List Incident) (c : DebugContext × τ) :
    (replay U timeline c).1.id = c.1.id ∧ (replay U timeline c).1.hook = c.1.hook := by
  induction timeline generalizing c with
  | nil => exact ⟨rfl, rfl⟩
  | cons i timeline ih =>
    obtain ⟨hid, hhook⟩ := apply_frame U c i
    obtain ⟨hid', hhook'⟩ := ih (apply U c i)
    exact ⟨hid'.trans hid, hhook'.trans hhook⟩

end Incident

open Incident

/-- What a checked operation on a table answers. -/
def HandleTable.answerTo (t : HandleTable) : TableOp → Except DebugError Handle
  | .openHandle u => (t.openHandle u).1
  | .resolve h => t.resolve h
  | .close h => (t.close h).1
  | .setClosedQueueMax _ | .newGeneration => .ok .null

namespace DebugContext

/-- What a failed check leaves: the diagnostic in the log, and then the hook is called with it. -/
def reporting (d : DebugContext) (e : DebugError) : List Incident :=
  [.logged (.ofError e d.id), .called (.ofError e d.id)]

/-- What a check makes happen. -/
def checking (d : DebugContext) (op : TableOp) : List Incident :=
  .checked op ::
    match d.table.answerTo op with
    | .ok _ => []
    | .error e => d.reporting e

end DebugContext

/-- What a call on the universal context makes happen when a hook is behind it. -/
def passing (U : Universal τ) (u : τ) (r : Request) : List Incident :=
  [.passedOn r, .performed ((U r u).1.map fun _ => Handle.null)]

/-- What an action of a hook makes happen. When its check fails the hook is called again, but nothing
comes of that call. -/
def HookAction.incidents (U : Universal τ) (c : DebugContext × τ) : HookAction → List Incident
  | resolve h =>
    c.1.checking (.resolve h) ++ [.performed ((c.1.table.resolve h).mapError .check)]
  | closeHandle h =>
    c.1.checking (.close h) ++ [.performed ((c.1.table.close h).1.mapError .check)]
  | openHandle u =>
    c.1.checking (.openHandle u) ++ [.performed ((c.1.table.openHandle u).1.mapError .check)]
  | close h =>
    c.1.checking (.close h) ++
      match (c.1.table.close h).1 with
      | .error e => [.performed (.error (.check e))]
      | .ok u => if u.isNull then [.performed (.ok .null)] else passing U c.2 (.close u)
  | universalClose u => passing U c.2 (.close u)

/-- What the actions of a hook make happen, one after another. -/
def hookIncidents (U : Universal τ) (c : DebugContext × τ) : List HookAction → List Incident
  | [] => []
  | a :: actions =>
    a.incidents U c ++ hookIncidents U (replay U (a.incidents U c) c) actions

/-- The diagnostics that a hook was called with, latest last. -/
def DebugContext.hookCalls (d : DebugContext) : List Diagnostic :=
  d.hookLog.toList.filterMap fun
    | .called x => some x
    | .performed _ => none

namespace DebugContext

theorem hookCalls_called (d : DebugContext) (x : Diagnostic) :
    (d.noteHook (.called x)).hookCalls = d.hookCalls ++ [x] := by
  rw [hookCalls, noteHook, Array.toList_push, List.filterMap_append]
  rfl

theorem hookCalls_performed (d : DebugContext) (r : Except CallError Handle) :
    (d.noteHook (.performed r)).hookCalls = d.hookCalls := by
  rw [hookCalls, noteHook, Array.toList_push, List.filterMap_append]
  exact List.append_nil _

end DebugContext

/-! ### Reports -/

/-- From the state `c` on, every failed check of the timeline is logged at once, and then the hook is
called with the same diagnostic. Nothing else is logged, and the hook is not called otherwise. The
errors are `errors`, in their order. -/
inductive Reported (U : Universal τ) :
    DebugContext × τ → List Incident → List DebugError → Prop
  | nil {c : DebugContext × τ} : Reported U c [] []
  | passed {c : DebugContext × τ} {op : TableOp} {h : Handle} {timeline : List Incident}
    {errors : List DebugError} (hok : c.1.table.answerTo op = .ok h)
    (hrest : Reported U (apply U c (.checked op)) timeline errors) :
    Reported U c (.checked op :: timeline) errors
  | failed {c : DebugContext × τ} {op : TableOp} {e : DebugError} {timeline : List Incident}
    {errors : List DebugError} (herror : c.1.table.answerTo op = .error e)
    (hrest : Reported U (replay U (c.1.reporting e) (apply U c (.checked op))) timeline errors) :
    Reported U c (.checked op :: .logged (.ofError e c.1.id) :: .called (.ofError e c.1.id) ::
      timeline) (e :: errors)
  | performed {c : DebugContext × τ} {r : Except CallError Handle} {timeline : List Incident}
    {errors : List DebugError}
    (hrest : Reported U (apply U c (.performed r)) timeline errors) :
    Reported U c (.performed r :: timeline) errors
  | passedOn {c : DebugContext × τ} {r : Request} {timeline : List Incident}
    {errors : List DebugError}
    (hrest : Reported U (apply U c (.passedOn r)) timeline errors) :
    Reported U c (.passedOn r :: timeline) errors

namespace Reported

variable {U : Universal τ} {c : DebugContext × τ} {timeline timeline' : List Incident}
  {errors errors' : List DebugError}

theorem append (h : Reported U c timeline errors)
    (h' : Reported U (replay U timeline c) timeline' errors') :
    Reported U c (timeline ++ timeline') (errors ++ errors') := by
  induction h with
  | nil => exact h'
  | passed hok _ ih => exact .passed hok (ih h')
  | failed herror _ ih => exact .failed herror (ih h')
  | performed _ ih => exact .performed (ih h')
  | passedOn _ ih => exact .passedOn (ih h')

theorem checking (c : DebugContext × τ) (op : TableOp) :
    ∃ errors, Reported U c (c.1.checking op) errors := by
  rw [DebugContext.checking]
  cases hanswer : c.1.table.answerTo op with
  | ok h => exact ⟨[], .passed hanswer .nil⟩
  | error e => exact ⟨[e], .failed hanswer .nil⟩

theorem passing (c : DebugContext × τ) (r : Request) : Reported U c (passing U c.2 r) [] :=
  .passedOn (.performed .nil)

/-- What an action makes happen is reported. -/
theorem action (c : DebugContext × τ) (a : HookAction) :
    ∃ errors, Reported U c (a.incidents U c) errors := by
  have checked (op : TableOp) (r : Except CallError Handle) :
      ∃ errors, Reported U c (c.1.checking op ++ [.performed r]) errors := by
    obtain ⟨errors, h⟩ := checking c op
    exact ⟨errors ++ [], h.append (.performed .nil)⟩
  cases a with
  | resolve h => exact checked (.resolve h) _
  | closeHandle h => exact checked (.close h) _
  | openHandle u => exact checked (.openHandle u) _
  | universalClose u => exact ⟨[], passing c (.close u)⟩
  | close h =>
    rw [HookAction.incidents]
    cases (c.1.table.close h).1 with
    | error e => exact checked (.close h) _
    | ok u =>
      dsimp only
      split
      · exact checked (.close h) _
      · obtain ⟨errors, hclose⟩ := checking c (.close h)
        have hcall : Reported U (replay U (c.1.checking (.close h)) c)
            (HandleGuard.passing U c.2 (.close u)) [] := .passedOn (.performed .nil)
        exact ⟨errors ++ [], hclose.append hcall⟩

/-- What a hook makes happen is reported. -/
theorem actions (c : DebugContext × τ) (as : List HookAction) :
    ∃ errors, Reported U c (hookIncidents U c as) errors := by
  induction as generalizing c with
  | nil => exact ⟨[], .nil⟩
  | cons a as ih =>
    obtain ⟨errors, ha⟩ := action c a
    obtain ⟨errors', has⟩ := ih (replay U (a.incidents U c) c)
    exact ⟨errors ++ errors', ha.append has⟩

/-- The log has taken a diagnostic for each error, in their order. -/
theorem log (h : Reported U c timeline errors) :
    (replay U timeline c).1.log =
      (errors.map (Diagnostic.ofError · c.1.id)).foldl DiagnosticLog.push c.1.log := by
  induction h with
  | nil => rfl
  | passed _ _ ih => exact ih
  | failed _ _ ih => exact ih
  | performed _ ih => exact ih
  | passedOn _ ih => exact ih

/-- The hook was called for each error, in their order. -/
theorem hookCalls (h : Reported U c timeline errors) :
    (replay U timeline c).1.hookCalls =
      c.1.hookCalls ++ errors.map (Diagnostic.ofError · c.1.id) := by
  induction h with
  | nil => simp
  | passed _ _ ih => exact ih
  | @failed c op e timeline errors _ _ ih =>
    have hnext : (replay U (c.1.reporting e) (apply U c (.checked op))).1.hookCalls =
        c.1.hookCalls ++ [.ofError e c.1.id] := DebugContext.hookCalls_called _ _
    rw [hnext, List.append_assoc] at ih
    exact ih
  | @performed c r timeline errors _ ih =>
    have hnext : (apply U c (.performed r)).1.hookCalls = c.1.hookCalls :=
      DebugContext.hookCalls_performed _ _
    rw [hnext] at ih
    exact ih
  | passedOn _ ih => exact ih

end Reported

/-! ### What contexts do -/

namespace DebugContext

variable {U : Universal τ} {c : DebugContext × τ}

/-- A failed check on a context with a hook. -/
theorem note_replay (hhook : c.1.hook.isSome = true) (e : DebugError) :
    note .first e c = replay U (c.1.reporting e) c := by
  obtain ⟨d, u⟩ := c
  rw [note_first, record]
  exact congrArg (·, u) (if_pos hhook)

/-- A checked operation, whatever is done when it fails. -/
theorem check_replay (onFail : DebugError → DebugContext × τ → DebugContext × τ)
    {op : HandleTable → Except DebugError Handle × HandleTable} {top : TableOp}
    (hop : ∀ t, op t = (t.answerTo top, t.perform top)) (c : DebugContext × τ) :
    check .first onFail op c = match c.1.table.answerTo top with
      | .ok h => (.ok h, Incident.apply U c (.checked top))
      | .error e => (.error e, onFail e (Incident.apply U c (.checked top))) := by
  obtain ⟨d, u⟩ := c
  rw [check_first, hop]
  dsimp only
  cases d.table.answerTo top with
  | ok h => rfl
  | error e => rfl

/-- A check that an action of a hook makes. -/
theorem check_noted (hhook : c.1.hook.isSome = true)
    {op : HandleTable → Except DebugError Handle × HandleTable} (top : TableOp)
    (hop : ∀ t, op t = (t.answerTo top, t.perform top)) :
    check .first (note .first) op c =
      (c.1.table.answerTo top, replay U (c.1.checking top) c) := by
  rw [check_replay (U := U) _ hop, checking]
  cases c.1.table.answerTo top with
  | ok h => rfl
  | error e =>
    have hnote : note .first e (Incident.apply U c (.checked top)) =
        replay U (c.1.reporting e) (Incident.apply U c (.checked top)) :=
      note_replay (c := Incident.apply U c (.checked top)) hhook e
    dsimp only
    rw [hnote]
    rfl

/-- A check does not touch the universal context. -/
theorem replay_checking_snd (c : DebugContext × τ) (op : TableOp) :
    (replay U (c.1.checking op) c).2 = c.2 := by
  rw [checking]
  cases c.1.table.answerTo op with
  | ok h => rfl
  | error e => rfl

/-- An action of a hook does what its incidents say. -/
theorem performNoted_replay (hhook : c.1.hook.isSome = true) (a : HookAction) :
    performNoted .first U.beside c a = replay U (a.incidents U c) c := by
  have hclose (h : Handle) : checkClose .first (note .first) h c =
      ((c.1.table.close h).1, replay U (c.1.checking (.close h)) c) :=
    check_noted hhook (.close h) fun _ => rfl
  cases a with
  | resolve h =>
    have hresolve : checkResolve .first (note .first) h c =
        (c.1.table.resolve h, replay U (c.1.checking (.resolve h)) c) :=
      check_noted hhook (.resolve h) fun _ => rfl
    rw [performNoted, perform, hresolve, HookAction.incidents, replay_append]
    rfl
  | closeHandle h =>
    rw [performNoted, perform, hclose, HookAction.incidents, replay_append]
    rfl
  | openHandle u =>
    have hopen : checkOpen .first (note .first) u c =
        ((c.1.table.openHandle u).1, replay U (c.1.checking (.openHandle u)) c) :=
      check_noted hhook (.openHandle u) fun _ => rfl
    rw [performNoted, perform, hopen, HookAction.incidents, replay_append]
    rfl
  | universalClose u => rfl
  | close h =>
    -- The report of the check leaves the universal context as the `close` behind it expects it.
    have hsame := replay_checking_snd (U := U) c (.close h)
    rw [performNoted, perform, closeThrough, hclose, HookAction.incidents, replay_append]
    generalize replay U (c.1.checking (.close h)) c = c' at hsame
    obtain ⟨d', u'⟩ := c'
    obtain rfl : u' = c.2 := hsame
    cases (c.1.table.close h).1 with
    | error e => rfl
    | ok u =>
      cases hnull : u.isNull with
      | true => simp only [hnull]; rfl
      | false => simp only [hnull]; rfl

theorem foldl_performNoted_replay (actions : List HookAction) (hhook : c.1.hook.isSome = true) :
    actions.foldl (performNoted .first U.beside) c = replay U (hookIncidents U c actions) c := by
  induction actions generalizing c with
  | nil => rfl
  | cons a actions ih =>
    have hhook' : (replay U (a.incidents U c) c).1.hook.isSome = true := by
      rw [(replay_frame U (a.incidents U c) c).2]
      exact hhook
    rw [List.foldl_cons, performNoted_replay hhook, ih hhook', hookIncidents, replay_append]

/-- A report is the entry in the log, the call of the hook, and what its actions make happen. -/
theorem report_replay {actions : List HookAction} (hhook : c.1.hook = some actions)
    (e : DebugError) :
    report .first U.beside e c =
      replay U (hookIncidents U (replay U (c.1.reporting e) c) actions)
        (replay U (c.1.reporting e) c) := by
  have hsome : c.1.hook.isSome = true := by rw [hhook]; rfl
  have hhook' := (replay_frame U (c.1.reporting e) c).2.trans hhook
  have hactions : report .first U.beside e c =
      ((note .first e c).1.hook.getD []).foldl (performNoted .first U.beside)
        (note .first e c) := rfl
  rw [hactions, note_replay (U := U) hsome, hhook', Option.getD_some,
    foldl_performNoted_replay actions (by rw [hhook']; rfl)]

end DebugContext

end HandleGuard
