import HandleGuard.Proofs.Diagnostic.Log
import Mathlib.Data.List.DropRight

/-!
# Nothing is lost silently

Draining divides what is pushed to a log into periods. Of each period the log keeps the latest
diagnostics, as many as it has room for, and hands them out at the end of the period. The others are
counted, and the count runs on over all periods.

* `LogHistory`               what was pushed, period by period, as the operations tell it
* `LogSession.Keeps`         a log beside what was pushed to it, kept by every operation
* `nothing_lost_silently`    every diagnostic was handed out, is still held, or is counted
-/

namespace HandleGuard

/-- What is done to a log. -/
inductive LogOp where
  | push (d : Diagnostic)
  | drain
deriving DecidableEq

/-- The diagnostic that an operation pushes. -/
def LogOp.pushed? : LogOp → Option Diagnostic
  | push d => some d
  | drain => none

/-- What was pushed: a list for each period that a drain has ended, and what came after the last
drain. -/
structure LogHistory where
  ended : List (List Diagnostic)
  current : List Diagnostic

namespace LogHistory

/-- The history with one operation more. -/
def next (h : LogHistory) : LogOp → LogHistory
  | .push d => { h with current := h.current ++ [d] }
  | .drain => ⟨h.ended ++ [h.current], []⟩

/-- The history of some operations on a new log. -/
def ofOps (ops : List LogOp) : LogHistory := ops.foldl next ⟨[], []⟩

/-- All periods, the present one last. -/
def periods (h : LogHistory) : List (List Diagnostic) := h.ended ++ [h.current]

/-- The periods hold all that was pushed, in order. -/
theorem flatten_periods_foldl (h : LogHistory) (ops : List LogOp) :
    (ops.foldl next h).periods.flatten = h.periods.flatten ++ ops.filterMap LogOp.pushed? := by
  induction ops generalizing h with
  | nil => exact (List.append_nil _).symm
  | cons op ops ih =>
    rw [List.foldl_cons, ih]
    cases op with
    | push d => simp [next, periods, LogOp.pushed?]
    | drain =>
      rw [List.filterMap_cons_none rfl]
      simp [next, periods]

theorem flatten_periods_ofOps (ops : List LogOp) :
    (ofOps ops).periods.flatten = ops.filterMap LogOp.pushed? :=
  flatten_periods_foldl ⟨[], []⟩ ops

/-- By how many the periods exceed `m` diagnostics. -/
def excess (m : Nat) : List (List Diagnostic) → Nat
  | [] => 0
  | p :: ps => p.length - m + excess m ps

theorem excess_concat (m : Nat) (ps : List (List Diagnostic)) (p : List Diagnostic) :
    excess m (ps ++ [p]) = excess m ps + (p.length - m) := by
  induction ps with
  | nil => exact Nat.add_comm _ _
  | cons q ps ih => rw [List.cons_append, excess, ih, excess, Nat.add_assoc]

/-- What exceeds `m` in a period are the diagnostics before its latest `m`. -/
theorem length_flatten_rdrop (m : Nat) (ps : List (List Diagnostic)) :
    (ps.map (·.rdrop m)).flatten.length = excess m ps := by
  induction ps with
  | nil => rfl
  | cons p ps ih =>
    rw [List.map_cons, List.flatten_cons, List.length_append, ih, excess, List.rdrop,
      List.length_take, Nat.min_eq_left (Nat.sub_le p.length m)]

/-- A period is what comes before its latest part, and then that part. -/
theorem zipWith_rdrop_rtake (m : Nat) (ps : List (List Diagnostic)) :
    List.zipWith (· ++ ·) (ps.map (·.rdrop m)) (ps.map (·.rtake m)) = ps := by
  induction ps with
  | nil => rfl
  | cons p ps ih =>
    rw [List.map_cons, List.map_cons, List.zipWith_cons_cons, ih, List.rdrop, List.rtake,
      List.take_append_drop]

end LogHistory

/-- A log with what its drains have handed out, in order. -/
structure LogSession where
  batches : List (List Diagnostic)
  log : DiagnosticLog

namespace LogSession

/-- The session after one operation more. -/
def perform (s : LogSession) : LogOp → LogSession
  | .push d => { s with log := s.log.push d }
  | .drain => ⟨s.batches ++ [s.log.drain.1], s.log.drain.2⟩

/-- The session of some operations on a new log for `max` diagnostics. -/
def run (max : Nat) (ops : List LogOp) : LogSession := ops.foldl perform ⟨[], .new max⟩

/-- The log has the latest diagnostics of the present period, up to `m` of them, its drains handed
out the latest ones of each period that ended, and all others are counted. -/
structure Keeps (m : Nat) (h : LogHistory) (s : LogSession) : Prop where
  max_eq : s.log.max = m
  snapshot_eq : s.log.snapshot = h.current.rtake m
  batches_eq : s.batches = h.ended.map (·.rtake m)
  dropped_eq : s.log.dropped = LogHistory.excess m h.periods

namespace Keeps

variable {m : Nat} {h : LogHistory} {s : LogSession}

theorem new (max : Nat) : Keeps (Nat.max max 1) ⟨[], []⟩ ⟨[], .new max⟩ where
  max_eq := rfl
  snapshot_eq := (List.rtake_nil _).symm
  batches_eq := rfl
  dropped_eq := by
    show 0 = 0 - Nat.max max 1 + 0
    omega

theorem next (hk : Keeps m h s) (hm : 0 < m) (op : LogOp) : Keeps m (h.next op) (s.perform op) := by
  obtain ⟨rfl, hsnapshot, hbatches, hdropped⟩ := hk
  rw [LogHistory.periods, LogHistory.excess_concat] at hdropped
  cases op with
  | push d =>
    refine ⟨DiagnosticLog.max_push _ _, DiagnosticLog.snapshot_push_of_latest hsnapshot hm d,
      hbatches, ?_⟩
    have hpush := DiagnosticLog.dropped_push_of_latest hsnapshot d
    show (s.log.push d).dropped =
      LogHistory.excess s.log.max (h.ended ++ [h.current ++ [d]])
    rw [LogHistory.excess_concat]
    omega
  | drain =>
    refine ⟨rfl, (List.rtake_nil _).symm, ?_, ?_⟩
    · show s.batches ++ [s.log.snapshot] = (h.ended ++ [h.current]).map (·.rtake s.log.max)
      rw [List.map_append, ← hbatches, hsnapshot]
      rfl
    · show s.log.dropped = LogHistory.excess s.log.max (h.ended ++ [h.current] ++ [[]])
      rw [LogHistory.excess_concat, LogHistory.excess_concat, List.length_nil]
      omega

theorem foldl (hk : Keeps m h s) (hm : 0 < m) (ops : List LogOp) :
    Keeps m (ops.foldl LogHistory.next h) (ops.foldl perform s) := by
  induction ops generalizing h s with
  | nil => exact hk
  | cons op ops ih => exact ih (hk.next hm op)

theorem run (max : Nat) (ops : List LogOp) :
    Keeps (Nat.max max 1) (LogHistory.ofOps ops) (LogSession.run max ops) :=
  (new max).foldl (Nat.le_max_right max 1) ops

end Keeps

end LogSession

/-- What was lost is never forgotten. -/
theorem LogSession.dropped_le_foldl (s : LogSession) (ops : List LogOp) :
    s.log.dropped ≤ (ops.foldl perform s).log.dropped := by
  induction ops generalizing s with
  | nil => exact Nat.le_refl _
  | cons op ops ih =>
    refine Nat.le_trans ?_ (ih (s.perform op))
    cases op with
    | push d => exact s.log.dropped_le_push d
    | drain => exact Nat.le_refl s.log.dropped

/-- What the drains handed out and what is held are the latest parts of the periods. -/
theorem LogSession.Keeps.kept_eq {m : Nat} {h : LogHistory} {s : LogSession} (hk : Keeps m h s) :
    s.batches ++ [s.log.snapshot] = h.periods.map (·.rtake m) := by
  rw [hk.batches_eq, hk.snapshot_eq, LogHistory.periods, List.map_append, List.map_singleton]

/-- No diagnostic is lost silently. At any time a log holds the latest of the `n` diagnostics pushed
since the last drain, `min m n` of them where it has room for `m`, in the order in which they came.
It has lost what its periods had beyond `m`; that number only grows, and draining leaves it alone. What
the drains handed out and what the log holds is all that was pushed, but for as many diagnostics as
it has lost, and each of those came before all that was kept of its period. -/
theorem nothing_lost_silently (max : Nat) (ops : List LogOp) :
    let m := Nat.max max 1
    let h := LogHistory.ofOps ops
    let s := LogSession.run max ops
    let pushes := ops.filterMap LogOp.pushed?
    let kept := s.batches ++ [s.log.snapshot]
    s.log.snapshot = h.current.rtake (min m h.current.length) ∧
    s.log.length = min m h.current.length ∧
    s.log.dropped = LogHistory.excess m h.periods ∧
    (∀ ops', s.log.dropped ≤ (LogSession.run max (ops ++ ops')).log.dropped) ∧
    s.log.drain.2.dropped = s.log.dropped ∧
    h.periods.flatten = pushes ∧
    kept.flatten.Sublist pushes ∧ pushes.length = kept.flatten.length + s.log.dropped ∧
    ∃ lost : List (List Diagnostic), lost.length = kept.length ∧ lost.flatten.length = s.log.dropped ∧
      List.zipWith (· ++ ·) lost kept = h.periods := by
  intro m h s pushes kept
  have hk : LogSession.Keeps m h s := .run max ops
  have hpushes : h.periods.flatten = pushes := LogHistory.flatten_periods_ofOps ops
  -- What is lost of a period is what comes before its latest part.
  let lost := h.periods.map (·.rdrop m)
  have hkept : kept = h.periods.map (·.rtake m) := hk.kept_eq
  have hlength : lost.length = kept.length := by
    rw [hkept, List.length_map, List.length_map]
  have hlost : lost.flatten.length = s.log.dropped := by
    rw [hk.dropped_eq]
    exact LogHistory.length_flatten_rdrop m h.periods
  have hzip : List.zipWith (· ++ ·) lost kept = h.periods := by
    rw [hkept]
    exact LogHistory.zipWith_rdrop_rtake m h.periods
  refine ⟨?_, ?_, hk.dropped_eq, ?_, rfl, hpushes, ?_, ?_, lost, hlength, hlost, hzip⟩
  · rw [hk.snapshot_eq, List.rtake, List.rtake]
    congr 1
    omega
  · rw [← hk.max_eq]
    exact DiagnosticLog.length_of_latest (hk.max_eq ▸ hk.snapshot_eq)
  · intro ops'
    rw [LogSession.run, List.foldl_append]
    exact s.dropped_le_foldl ops'
  · rw [← hpushes, ← hzip]
    exact List.flatten_sublist_zipWith_append hlength
  · rw [← hpushes, ← hzip, List.length_flatten_zipWith_append hlength, hlost, Nat.add_comm]

end HandleGuard
