import HandleGuard.Diagnostic.Log
import HandleGuard.Context
import HandleGuard.Proofs.Lists

/-!
# What a log still holds

A log has its latest diagnostics and knows how many it has lost. So what was written to a log since
it was made can be split in two: the latest part, as long as the log has room, is what it holds, and
the rest is what it counts as lost.

* `DiagnosticLog.snapshot_push`, `DiagnosticLog.dropped_push`   one diagnostic more
* `DiagnosticLog.Holds`                                         a log with all that was written to it
* `DiagnosticLog.Twins`                                         logs of contexts that fail alike
* `DebugContext.Recorded`                                       a context with all its failed checks
-/

namespace HandleGuard

namespace DiagnosticLog

variable {log : DiagnosticLog} {ds : List Diagnostic}

theorem length_snapshot (log : DiagnosticLog) : log.snapshot.length = log.length :=
  (Fifo.size_eq_length log.entries).symm

@[simp] theorem max_push (log : DiagnosticLog) (d : Diagnostic) : (log.push d).max = log.max := by
  unfold push
  split
  · split <;> rfl
  · rfl

/-- A log with room keeps all it has, and a full one gives up its oldest entry. -/
theorem snapshot_push (hlen : log.length ≤ log.max) (hmax : 0 < log.max) (d : Diagnostic) :
    (log.push d).snapshot = (log.snapshot ++ [d]).drop (log.length + 1 - log.max) := by
  unfold length at hlen ⊢
  unfold push
  split
  · rename_i hfull
    rw [show log.entries.size + 1 - log.max = 1 by omega]
    cases hpop : log.entries.pop? with
    | none =>
      -- A full log has an entry to give up.
      have hempty := congrArg List.length (Fifo.pop?_eq_none_iff.mp hpop)
      rw [← Fifo.size_eq_length, List.length_nil] at hempty
      omega
    | some p =>
      obtain ⟨oldest, rest⟩ := p
      simp only [snapshot, Fifo.toList_of_pop? hpop, Fifo.toList_push, List.cons_append,
        List.drop_succ_cons, List.drop_zero]
  · rw [show log.entries.size + 1 - log.max = 0 by omega]
    simp only [snapshot, Fifo.toList_push, List.drop_zero]

theorem dropped_push (hlen : log.length ≤ log.max) (d : Diagnostic) :
    (log.push d).dropped = log.dropped + (log.length + 1 - log.max) := by
  unfold length at hlen ⊢
  unfold push
  split
  · split <;> dsimp only <;> omega
  · dsimp only
    omega

theorem dropped_le_push (log : DiagnosticLog) (d : Diagnostic) :
    log.dropped ≤ (log.push d).dropped := by
  unfold push
  split
  · split <;> exact Nat.le_succ _
  · exact Nat.le_refl _

section

variable (hlatest : log.snapshot = ds.drop (ds.length - log.max))

include hlatest

theorem length_of_latest : log.length = min log.max ds.length := by
  rw [← length_snapshot, hlatest, List.length_drop]
  omega

/-- What is held of the latest diagnostics, and a new one: again the latest ones. -/
theorem snapshot_push_of_latest (hmax : 0 < log.max) (d : Diagnostic) :
    (log.push d).snapshot = (ds ++ [d]).drop ((ds ++ [d]).length - log.max) := by
  have hle : log.length ≤ log.max := by
    have hlen := length_of_latest hlatest
    omega
  have hnew : log.length + 1 = (log.snapshot ++ [d]).length := by
    rw [List.length_append, length_snapshot, List.length_singleton]
  rw [snapshot_push hle hmax, hnew, hlatest]
  exact List.drop_length_sub_append ds [d] log.max

/-- One more is lost when there are more diagnostics than the log may hold. -/
theorem dropped_push_of_latest (d : Diagnostic) :
    (log.push d).dropped + (ds.length - log.max) =
      log.dropped + ((ds ++ [d]).length - log.max) := by
  have hlen := length_of_latest hlatest
  rw [dropped_push (by omega), List.length_append, List.length_singleton]
  omega

end

/-- Whatever a log gives up for a new diagnostic is its oldest part. -/
theorem snapshot_push_suffix (log : DiagnosticLog) (d : Diagnostic) :
    (log.push d).snapshot <:+ log.snapshot ++ [d] := by
  unfold push
  split
  · cases hpop : log.entries.pop? with
    | none =>
      simp only [snapshot, Fifo.toList_push]
      exact List.suffix_rfl
    | some p =>
      obtain ⟨oldest, rest⟩ := p
      simp only [snapshot, Fifo.toList_of_pop? hpop, Fifo.toList_push, List.cons_append]
      exact List.suffix_cons _ _
  · simp only [snapshot, Fifo.toList_push]
    exact List.suffix_rfl

/-- A log that took `ds` holds the latest part of what it held before and `ds`. -/
theorem snapshot_foldl_push_suffix (log : DiagnosticLog) (ds : List Diagnostic) :
    (ds.foldl push log).snapshot <:+ log.snapshot ++ ds := by
  induction ds generalizing log with
  | nil => simp
  | cons d ds ih =>
    obtain ⟨older, hpush⟩ := snapshot_push_suffix log d
    obtain ⟨older', hrest⟩ := ih (log.push d)
    refine ⟨older ++ older', ?_⟩
    rw [List.foldl_cons, List.append_assoc, hrest, ← List.append_assoc, hpush, List.append_assoc]
    rfl

/-- The log was written to since it was made, and `ds` is all that was written. -/
structure Holds (log : DiagnosticLog) (ds : List Diagnostic) : Prop where
  max_pos : 0 < log.max
  snapshot_eq : log.snapshot = ds.drop (ds.length - log.max)
  dropped_eq : log.dropped = ds.length - log.max

namespace Holds

theorem new (max : Nat) : (DiagnosticLog.new max).Holds [] where
  max_pos := Nat.le_max_right max 1
  snapshot_eq := List.drop_nil.symm
  dropped_eq := (Nat.zero_sub _).symm

theorem length_eq (h : log.Holds ds) : log.length = min log.max ds.length :=
  length_of_latest h.snapshot_eq

theorem push (h : log.Holds ds) (d : Diagnostic) : (log.push d).Holds (ds ++ [d]) := by
  refine ⟨by rw [max_push]; exact h.max_pos, ?_, ?_⟩
  · rw [snapshot_push_of_latest h.snapshot_eq h.max_pos, max_push]
  · have hdropped := dropped_push_of_latest h.snapshot_eq d
    rw [max_push]
    rw [h.dropped_eq] at hdropped
    omega

end Holds

end DiagnosticLog

/-! ### Logs of two contexts -/

/-- The diagnostic as another context would have it. -/
def Diagnostic.inContext (d : Diagnostic) (id : ContextId) : Diagnostic := { d with context := some id }

/-- Two logs of one size that have lost as much, of which the second holds what the first one does,
as the diagnostics of context `id`. -/
structure DiagnosticLog.Twins (id : ContextId) (log log' : DiagnosticLog) : Prop where
  max_pos : 0 < log.max
  max_eq : log'.max = log.max
  length_le : log.length ≤ log.max
  dropped_eq : log'.dropped = log.dropped
  snapshot_eq : log'.snapshot = log.snapshot.map (·.inContext id)

namespace DiagnosticLog.Twins

theorem new (id : ContextId) (max : Nat) : Twins id (.new max) (.new max) :=
  ⟨Nat.le_max_right max 1, rfl, Nat.zero_le _, rfl, rfl⟩

theorem push {id : ContextId} {log log' : DiagnosticLog} (h : Twins id log log') (d : Diagnostic) :
    Twins id (log.push d) (log'.push (d.inContext id)) := by
  have hmax := h.max_pos
  have hlen := h.length_le
  have hlen' : log'.length = log.length := by
    rw [← length_snapshot, ← length_snapshot, h.snapshot_eq, List.length_map]
  have hle' : log'.length ≤ log'.max := by
    rw [hlen', h.max_eq]
    exact hlen
  refine ⟨by rwa [max_push], by rw [max_push, max_push, h.max_eq], ?_, ?_, ?_⟩
  · rw [← length_snapshot, snapshot_push hlen hmax, List.length_drop, List.length_append,
      length_snapshot, max_push, List.length_singleton]
    omega
  · rw [dropped_push hle', dropped_push hlen, hlen', h.max_eq, h.dropped_eq]
  · rw [snapshot_push hle' (by rwa [h.max_eq]), snapshot_push hlen hmax, hlen', h.max_eq,
      List.map_drop, List.map_append, h.snapshot_eq, List.map_singleton]

end DiagnosticLog.Twins

namespace DebugContext

variable {d : DebugContext} {es : List DebugError}

/-- The failed checks of the context since it was made, in order, are `es`. -/
def Recorded (d : DebugContext) (es : List DebugError) : Prop :=
  d.log.Holds (es.map (Diagnostic.ofError · d.id))

@[simp] theorem record_id (d : DebugContext) (e : DebugError) : (d.record e).id = d.id := by
  simp only [record]
  split <;> rfl

theorem record_log (d : DebugContext) (e : DebugError) :
    (d.record e).log = d.log.push (.ofError e d.id) := by
  simp only [record]
  split <;> rfl

theorem Recorded.record (h : d.Recorded es) (e : DebugError) : (d.record e).Recorded (es ++ [e]) := by
  unfold Recorded
  rw [record_log, record_id, List.map_append]
  exact h.push (.ofError e d.id)

/-- Only the log and the identity matter. -/
theorem Recorded.congr (h : d.Recorded es) {d' : DebugContext} (hlog : d'.log = d.log)
    (hid : d'.id = d.id) : d'.Recorded es := by
  unfold Recorded
  rw [hlog, hid]
  exact h

/-- A log has the diagnostics of the latest failed checks and counts the others. -/
theorem Recorded.latest (h : d.Recorded es) :
    d.log.snapshot = (es.drop d.log.dropped).map (Diagnostic.ofError · d.id) ∧
      es.length = d.log.snapshot.length + d.log.dropped ∧
      d.log.snapshot.length = min d.log.max es.length := by
  have hsnapshot := h.snapshot_eq
  have hdropped := h.dropped_eq
  have hlen := h.length_eq
  rw [← DiagnosticLog.length_snapshot] at hlen
  rw [List.length_map] at hdropped hlen
  refine ⟨?_, by omega, hlen⟩
  rw [hsnapshot, List.length_map, hdropped, List.map_drop]

end DebugContext

end HandleGuard
