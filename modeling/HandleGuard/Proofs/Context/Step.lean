import HandleGuard.Proofs.Context.Run
import HandleGuard.Proofs.Table.Bindings

/-!
# What one call on a debug context does

A call on a debug context ends in one of six ways, if no hook acts meanwhile. `Answered` lists them,
each with what it does to the table, to the log and to the universal context, so that a proof about
calls need not follow them through the context again.

* `DebugContext.Answered`           the six ways
* `DebugContext.respond_answered`   every call ends in one of them
-/

namespace HandleGuard.DebugContext

variable {τ : Type} {U : Universal τ} {d d' : DebugContext} {u u' : τ} {r : Request}
  {a : Except CallError Reply}

/-- The answer `a` to a call on the context `d` before the universal context `U` in state `u`, with
both states after the call. -/
inductive Answered (U : Universal τ) (d : DebugContext) (u : τ) (r : Request) :
    Except CallError Reply → DebugContext → τ → Prop
  /-- The first handle that may not be used is refused. -/
  | refused {before after : List Handle} {h : Handle} {e : DebugError}
    (hargs : r.handles = before ++ h :: after) (hbefore : ∀ k ∈ before, d.table.Accepts k)
    (hrefused : ¬d.table.Accepts h) (he : e.handle? = some h) :
    Answered U d u r (.error (.check e)) (d.record e) u
  /-- Null is closed, which changes nothing. -/
  | closedNull (hr : r = .close .null) : Answered U d u r (.ok .closed) d u
  /-- A handle is closed, and then the handle it stood for. -/
  | closed {h uh : Handle} {table : HandleTable} {a : Except CallError Reply} {u' : τ}
    (hr : r = .close h) (ht : table.WellFormed) (huh : uh ≠ .null)
    (hperm : d.table.bindings.Perm ((h, uh) :: table.bindings)) (hU : U (.close uh) u = (a, u')) :
    Answered U d u r a { d with table } u'
  /-- The call is passed on, and no handle comes back that needs a debug handle. -/
  | passed {us : List Handle} {a : Except CallError Reply} {u' : τ} (hr : ∀ k, r ≠ .close k)
    (hres : r.handles.mapM d.table.resolve = .ok us) (hU : U (r.withHandles us) u = (a, u'))
    (ha : ∀ k, k ≠ .null → a ≠ .ok (.handle k)) : Answered U d u r a d u'
  /-- The call is passed on, and the handle that comes back is wrapped. -/
  | wrapped {us : List Handle} {uh h : Handle} {table : HandleTable} {u' : τ}
    (hr : ∀ k, r ≠ .close k) (hres : r.handles.mapM d.table.resolve = .ok us)
    (hU : U (r.withHandles us) u = (.ok (.handle uh), u')) (huh : uh ≠ .null)
    (ht : table.WellFormed) (hperm : table.bindings.Perm ((h, uh) :: d.table.bindings)) :
    Answered U d u r (.ok (.handle h)) { d with table } u'
  /-- The call is passed on, and the handle that comes back is closed again as there is no room. -/
  | full {us : List Handle} {uh : Handle} {u' : τ} (hr : ∀ k, r ≠ .close k)
    (hres : r.handles.mapM d.table.resolve = .ok us)
    (hU : U (r.withHandles us) u = (.ok (.handle uh), u')) (huh : uh ≠ .null)
    (hfull : d.table.openCount = d.table.capacity) :
    Answered U d u r (.error (.check (.tableFull d.table.capacity)))
      (d.record (.tableFull d.table.capacity)) (U (.close uh) u').2

section

variable (ht : d.table.WellFormed) (hidle : d.Idle)

include ht hidle

private theorem close_answered (h : Handle) :
    let p := respond .first U.beside (.close h) (d, u)
    Answered U d u (.close h) p.1 p.2.1 p.2.2 := by
  simp only [respond, closeThrough, checkClose, check_first]
  obtain ⟨rfl, hclose⟩ | ⟨uh, table, hclose, -, huh, ht', -, hperm⟩ | ⟨e, hclose, -, he⟩ :=
    d.table.close_bindings ht h
  · rw [hclose]
    exact .closedNull rfl
  · rw [hclose]
    simp only [Handle.not_isNull huh]
    exact .closed rfl ht' huh hperm rfl
  · have hrefused := HandleTable.not_accepts_of_close ht (congrArg Prod.fst hclose)
    rw [hclose]
    simp only [report_of_idle U.beside e hidle]
    exact .refused (show [h] = [] ++ h :: [] from rfl) (List.forall_mem_nil _) hrefused he

/-- The universal context answered a handle other than null. -/
private theorem wrap_answered (hr : ∀ k, r ≠ .close k) {us : List Handle} {uh : Handle}
    (hres : r.handles.mapM d.table.resolve = .ok us)
    (hU : U (r.withHandles us) u = (.ok (.handle uh), u')) (huh : uh ≠ .null) :
    let p := wrap .first U.beside uh (d, u')
    Answered U d u r p.1 p.2.1 p.2.2 := by
  simp only [wrap, openHandle, checkOpen, check_first]
  obtain ⟨h, table, hopen, ht', -, hperm⟩ | ⟨hopen, hfull⟩ := d.table.openHandle_bindings ht huh
  · rw [hopen]
    exact .wrapped hr hres hU huh ht' hperm
  · rw [hopen]
    simp only [report_of_idle U.beside _ hidle]
    exact .full hr hres hU huh hfull

/-- Every call on a context whose hook does not act ends in one of these ways. -/
theorem respond_answered (U : Universal τ) (u : τ) (r : Request) :
    let p := respond .first U.beside r (d, u)
    Answered U d u r p.1 p.2.1 p.2.2 := by
  by_cases hclose : ∃ k, r = .close k
  · obtain ⟨k, rfl⟩ := hclose
    exact close_answered ht hidle k
  · have hr : ∀ k, r ≠ .close k := fun k hk => hclose ⟨k, hk⟩
    rw [respond_first U.beside hr]
    cases hres : r.handles.mapM d.table.resolve with
    | error e =>
      obtain ⟨before, h, after, hargs, hbefore, hrefused, he⟩ :=
        HandleTable.mapM_resolve_error ht hres
      simp only [report_of_idle U.beside e hidle]
      exact .refused hargs hbefore hrefused (HandleTable.resolve_error he).2
    | ok us =>
      generalize hU : U (r.withHandles us) u = p
      obtain ⟨a, u'⟩ := p
      have hbeside : U.beside (r.withHandles us) (d, u) = (a, d, u') := by
        rw [Universal.beside, hU]
      by_cases hhandle : ∃ uh, a = .ok (.handle uh)
      · obtain ⟨uh, rfl⟩ := hhandle
        simp only [forward_handle hbeside]
        by_cases huh : uh = .null
        · -- Null stands for itself and needs no entry in the table.
          subst huh
          refine .passed hr hres hU fun k hk heq => ?_
          cases heq
          exact hk rfl
        · exact wrap_answered ht hidle hr hres hU huh
      · simp only [forward_other hbeside fun uh heq => hhandle ⟨uh, heq⟩]
        exact .passed hr hres hU fun k _ heq => hhandle ⟨k, heq⟩

end

end HandleGuard.DebugContext
