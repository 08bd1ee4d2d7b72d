import HandleGuard.Proofs.Table.Step

/-!
# Runs of table operations

A run is a list of operations on a table. What a run issues, closes and retires is read off the
answers of its operations and off its closed queue; `run_trace` shows that these are the events of
the steps behind the run.
-/

namespace HandleGuard

/-- An operation on a table. -/
inductive TableOp where
  | openHandle (underlying : Handle)
  | resolve (h : Handle)
  | close (h : Handle)
  | setClosedQueueMax (max : Nat)
  | newGeneration
deriving DecidableEq, Repr

namespace TableEvent

/-- The handle that an event issues, with what it stands for. -/
def issued? : TableEvent → Option (Handle × Handle)
  | issued _ h u => some (h, u)
  | _ => none

/-- The handle that an event closes. -/
def closed? : TableEvent → Option Handle
  | closed _ h => some h
  | _ => none

/-- The slot that an event retires. -/
def retired? : TableEvent → Option Nat
  | retired i => some i
  | _ => none

@[simp] theorem filterMap_issued?_retired (rs : List Nat) :
    rs.filterMap (issued? ∘ retired) = [] :=
  List.filterMap_eq_nil_iff.mpr fun _ _ => rfl

@[simp] theorem filterMap_closed?_retired (rs : List Nat) :
    rs.filterMap (closed? ∘ retired) = [] :=
  List.filterMap_eq_nil_iff.mpr fun _ _ => rfl

@[simp] theorem filterMap_retired?_retired (rs : List Nat) :
    rs.filterMap (retired? ∘ retired) = rs :=
  List.filterMap_some

end TableEvent

namespace HandleTable

/-- The table after an operation. -/
def perform (t : HandleTable) : TableOp → HandleTable
  | .openHandle u => (t.openHandle u).2
  | .resolve _ => t
  | .close h => (t.close h).2
  | .setClosedQueueMax max => t.setClosedQueueMax max
  | .newGeneration => t.newGeneration

/-- The table after a run. -/
def run (t : HandleTable) (ops : List TableOp) : HandleTable := ops.foldl perform t

/-- The handle that an operation issues, with the universal handle it is for. -/
def issuedBy (t : HandleTable) : TableOp → List (Handle × Handle)
  | .openHandle u =>
    match (t.openHandle u).1 with
    | .ok h => if h.isNull then [] else [(h, u)]
    | .error _ => []
  | _ => []

/-- The handle that an operation closes. -/
def closedBy (t : HandleTable) : TableOp → List Handle
  | .close h =>
    match (t.close h).1 with
    | .ok _ => if h.isNull then [] else [h]
    | .error _ => []
  | _ => []

/-- The slots that an operation retires: those that leave the closed queue, also when they only
entered it with this operation. -/
def retiredBy (t : HandleTable) (op : TableOp) : List Nat :=
  let queue := t.closed.toList ++ (t.closedBy op).filterMap Handle.slot?
  queue.take (queue.length - (t.perform op).closed.toList.length)

/-- What `f` says of the operations of a run, in their order. -/
def collect {α : Type} (f : HandleTable → TableOp → List α) : HandleTable → List TableOp → List α
  | _, [] => []
  | t, op :: ops => f t op ++ collect f (t.perform op) ops

/-- The handles that a run issues, with the universal handles they are for. -/
def issued (t : HandleTable) (ops : List TableOp) : List (Handle × Handle) := collect issuedBy t ops

/-- The handles that a run closes. -/
def closedIn (t : HandleTable) (ops : List TableOp) : List Handle := collect closedBy t ops

/-- The slots that a run retires. -/
def retired (t : HandleTable) (ops : List TableOp) : List Nat := collect retiredBy t ops

@[simp] theorem run_nil (t : HandleTable) : t.run [] = t := rfl

@[simp] theorem run_cons (t : HandleTable) (op : TableOp) (ops : List TableOp) :
    t.run (op :: ops) = (t.perform op).run ops := rfl

theorem run_append (t : HandleTable) (ops ops' : List TableOp) :
    t.run (ops ++ ops') = (t.run ops).run ops' :=
  List.foldl_append

theorem collect_append {α : Type} (f : HandleTable → TableOp → List α) (t : HandleTable)
    (ops ops' : List TableOp) :
    collect f t (ops ++ ops') = collect f t ops ++ collect f (t.run ops) ops' := by
  induction ops generalizing t with
  | nil => rfl
  | cons op ops ih => simp only [List.cons_append, collect, ih, run_cons, List.append_assoc]

section

variable {t : HandleTable}

/-- The events behind an operation are what it issues, closes and retires. -/
structure PerformedBy (t : HandleTable) (op : TableOp) (evs : List TableEvent) : Prop where
  trace : Trace t evs (t.perform op)
  issued : t.issuedBy op = evs.filterMap TableEvent.issued?
  closed : t.closedBy op = evs.filterMap TableEvent.closed?
  retired : t.retiredBy op = evs.filterMap TableEvent.retired?

/-- The slots that an operation retires are those that leave the front of the closed queue. -/
private theorem performedBy_of_queue {op : TableOp} {evs : List TableEvent}
    (htrace : Trace t evs (t.perform op))
    (hissued : t.issuedBy op = evs.filterMap TableEvent.issued?)
    (hclosed : t.closedBy op = evs.filterMap TableEvent.closed?)
    (hqueue : t.closed.toList ++ (t.closedBy op).filterMap Handle.slot? =
      evs.filterMap TableEvent.retired? ++ (t.perform op).closed.toList) : PerformedBy t op evs :=
  ⟨htrace, hissued, hclosed,
    by simp only [retiredBy, hqueue, List.length_append, Nat.add_sub_cancel, List.take_left]⟩

/-- An operation that changes nothing takes no step. -/
private theorem performedBy_nil {op : TableOp} (hsame : t.perform op = t)
    (hissued : t.issuedBy op = []) (hclosed : t.closedBy op = []) : PerformedBy t op [] :=
  performedBy_of_queue (hsame.symm ▸ .nil t) hissued hclosed (by simp [hsame, hclosed])

variable (ht : t.WellFormed)

include ht

/-- `openHandle` issues a handle that is not null, and it does so last, after one retirement at
most. -/
theorem openHandle_performedBy {u h : Handle} (hu : u ≠ .null)
    (hok : (t.openHandle u).1 = .ok h) :
    h ≠ .null ∧ ∃ (i : Nat) (rs : List Nat) (t₁ : HandleTable), Trace t (rs.map .retired) t₁ ∧
      Step t₁ (.issued i h u) (t.perform (.openHandle u)) ∧
      PerformedBy t (.openHandle u) (rs.map .retired ++ [.issued i h u]) := by
  -- Both ways to a handle end with the step that issues it.
  have key : ∀ (i : Nat) (rs : List Nat) (t₁ : HandleTable), Trace t (rs.map .retired) t₁ →
      t.closed.toList = rs ++ t₁.closed.toList →
      Step t₁ (.issued i h u) (t.perform (.openHandle u)) →
      h ≠ .null ∧ PerformedBy t (.openHandle u) (rs.map .retired ++ [.issued i h u]) := by
    intro i rs t₁ htrace hqueue hstep
    have hh : h ≠ .null := hstep.issued_ne_null (htrace.wellFormed ht)
    have hnull : ¬h.isNull = true := Handle.not_isNull hh
    refine ⟨hh, performedBy_of_queue (htrace.append hstep.trace) ?_ ?_ ?_⟩
    · simp [issuedBy, hok, hnull, TableEvent.issued?]
    · simp [closedBy, TableEvent.closed?]
    · simpa [closedBy, hstep.issued_closed, List.filterMap_cons, TableEvent.retired?] using hqueue
  obtain ⟨i, h', t', hopen, hstep⟩ | ⟨i, h', t₁, t', hopen, hret, hstep, -⟩ | ⟨hfull, -⟩ :=
    openHandle_cases ht hu
  · rw [hopen] at hok
    cases hok
    have hstep : Step t (.issued i h u) (t.perform (.openHandle u)) := by
      rwa [perform, hopen]
    obtain ⟨hh, hby⟩ := key i [] t (.nil t) rfl hstep
    exact ⟨hh, i, [], t, .nil t, hstep, hby⟩
  · rw [hopen] at hok
    cases hok
    have hstep : Step t₁ (.issued i h u) (t.perform (.openHandle u)) := by
      rwa [perform, hopen]
    obtain ⟨hh, hby⟩ := key i [i] t₁ hret.trace hret.retired_closed hstep
    exact ⟨hh, i, [i], t₁, hret.trace, hstep, hby⟩
  · rw [hfull] at hok
    exact nomatch hok

omit ht in
/-- Only null gets null. -/
theorem ne_null_of_openHandle {u h : Handle} (hh : h ≠ .null) (hok : (t.openHandle u).1 = .ok h) :
    u ≠ .null := by
  intro hu
  subst hu
  exact hh (Except.ok.inj hok).symm

private theorem openHandle_steps (u : Handle) : ∃ evs, PerformedBy t (.openHandle u) evs := by
  by_cases hu : u = .null
  · subst hu
    exact ⟨[], performedBy_nil rfl rfl rfl⟩
  · cases hok : (t.openHandle u).1 with
    | ok h =>
      obtain ⟨-, i, rs, t₁, -, -, hby⟩ := openHandle_performedBy ht hu hok
      exact ⟨_, hby⟩
    | error e =>
      -- An error means that the table is full, and then nothing changes.
      obtain ⟨_, _, _, hopen, -⟩ | ⟨_, _, _, _, hopen, -⟩ | ⟨hfull, -⟩ := openHandle_cases ht hu
      · rw [hopen] at hok
        exact nomatch hok
      · rw [hopen] at hok
        exact nomatch hok
      · exact ⟨[], performedBy_nil (by simp only [perform, hfull])
          (by simp only [issuedBy, hfull]) rfl⟩

private theorem close_steps (h : Handle) : ∃ evs, PerformedBy t (.close h) evs := by
  by_cases hh : h = .null
  · subst hh
    exact ⟨[], performedBy_nil rfl rfl rfl⟩
  · have hnull : ¬h.isNull = true := Handle.not_isNull hh
    obtain ⟨_, -, hclose⟩ | ⟨_, _, -, -, hclose⟩ | ⟨i, e, t₁, hl, -, hstep, hqueue, -, hclose⟩ :=
      close_cases ht hh
    · exact ⟨[], performedBy_nil (by simp only [perform, hclose]) rfl
        (by simp only [closedBy, hclose])⟩
    · exact ⟨[], performedBy_nil (by simp only [perform, hclose]) rfl
        (by simp only [closedBy, hclose])⟩
    · -- The handle is closed, and then slots leave the queue in front, possibly this one too.
      obtain ⟨rs, htrim, hrest, -⟩ := trim_trace (hstep.wellFormed ht)
      have hclosed : t.closedBy (.close h) = [h] := by
        simp only [closedBy, hclose, hnull, Bool.false_eq_true, ↓reduceIte]
      have hafter : t.perform (.close h) = t₁.trim := by simp only [perform, hclose]
      have hslot : h.slot? = some i := by
        obtain ⟨hi, rfl⟩ := (lookup_eq_ok_iff ht).mp hl
        exact slot?_handleAt ht (ht.slot_lt hi) _
      refine ⟨.closed i h :: rs.map .retired,
        performedBy_of_queue (hafter ▸ .cons hstep htrim) ?_ ?_ ?_⟩
      · simp [issuedBy, TableEvent.issued?]
      · simp [hclosed, TableEvent.closed?]
      · simp [hclosed, hafter, hslot, ← hqueue, hrest, List.filterMap_cons, TableEvent.retired?]

private theorem setClosedQueueMax_steps (max : Nat) :
    ∃ evs, PerformedBy t (.setClosedQueueMax max) evs := by
  obtain ⟨rs, htrace, hrest, -⟩ := setClosedQueueMax_trace ht max
  refine ⟨_, performedBy_of_queue htrace ?_ ?_ ?_⟩
  · simp [issuedBy, TableEvent.issued?]
  · simp [closedBy, TableEvent.closed?]
  · simp [closedBy, perform, hrest, List.filterMap_cons, TableEvent.retired?]

/-- Every operation is a sequence of steps. -/
theorem perform_steps (op : TableOp) : ∃ evs, PerformedBy t op evs := by
  cases op with
  | openHandle u => exact openHandle_steps ht u
  | resolve h => exact ⟨[], performedBy_nil rfl rfl rfl⟩
  | close h => exact close_steps ht h
  | setClosedQueueMax max => exact setClosedQueueMax_steps ht max
  | newGeneration =>
    have hdial : Step t .dialled t.newGeneration := .dial t.closedQueueMax (t.leakGeneration + 1)
    exact ⟨[.dialled], performedBy_of_queue hdial.trace rfl rfl
      (by simp [closedBy, perform, newGeneration, TableEvent.retired?])⟩

/-- Operations keep a table well-formed. -/
theorem perform_wellFormed (op : TableOp) : (t.perform op).WellFormed := by
  obtain ⟨evs, hby⟩ := perform_steps ht op
  exact hby.trace.wellFormed ht

/-- Runs keep a table well-formed. -/
theorem run_wellFormed (ops : List TableOp) : (t.run ops).WellFormed := by
  induction ops generalizing t with
  | nil => exact ht
  | cons op ops ih => exact ih (perform_wellFormed ht op)

/-- The steps of a run are what it issues, closes and retires. -/
theorem run_trace (ops : List TableOp) : ∃ evs, Trace t evs (t.run ops) ∧
    t.issued ops = evs.filterMap TableEvent.issued? ∧
    t.closedIn ops = evs.filterMap TableEvent.closed? ∧
    t.retired ops = evs.filterMap TableEvent.retired? := by
  -- The three lists are collected operation by operation, as the steps are.
  induction ops generalizing t with
  | nil => exact ⟨[], .nil t, rfl, rfl, rfl⟩
  | cons op ops ih =>
    obtain ⟨evs, hby⟩ := perform_steps ht op
    obtain ⟨evs', htrace, hissued, hclosed, hretired⟩ := ih (perform_wellFormed ht op)
    refine ⟨evs ++ evs', hby.trace.append htrace, ?_, ?_, ?_⟩
    · rw [List.filterMap_append, ← hby.issued, ← hissued]
      rfl
    · rw [List.filterMap_append, ← hby.closed, ← hclosed]
      rfl
    · rw [List.filterMap_append, ← hby.retired, ← hretired]
      rfl

/-- Runs leave the tag and the capacity alone. -/
theorem run_frame (ops : List TableOp) :
    (t.run ops).tag = t.tag ∧ (t.run ops).capacity = t.capacity := by
  obtain ⟨evs, htrace, -⟩ := run_trace ht ops
  exact htrace.frame

theorem run_handleAt (ops : List TableOp) (i g : Nat) :
    (t.run ops).handleAt i g = t.handleAt i g := by
  rw [handleAt, handleAt, (run_frame ht ops).1]

end

end HandleTable

end HandleGuard
