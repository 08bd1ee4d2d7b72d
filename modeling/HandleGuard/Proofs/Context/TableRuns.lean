import HandleGuard.Proofs.Context.Ledger
import HandleGuard.Proofs.Table.Generations

/-!
# A debug context runs its table

Whatever a debug context does to its table, it does by the operations of tables. So each operation
on the context moves the table by a run, and what the run issues can be read from the outside: it is
the handle in the answer to a call, with the universal handle that came back from the universal
context, and what `openHandle` answered, to the caller or to the hook.

* `SharedOp.opened`        the handles that an operation opens, read from its answers
* `HandleTable.Evolves`    one table becomes another by a run of operations
* `SharedOp.apply_evolves` an operation on the context moves its table by a run that issues these
-/

namespace HandleGuard

open DebugContext CallRecord

variable {τ σ : Type}

/-! ### What operations open -/

/-- The handles that `openHandle` issued, with the universal handles they are for; null is no
handle. -/
def Deed.openings (deeds : List Deed) : List (Handle × Handle) :=
  deeds.filterMap fun
    | (.openHandle u, .ok h) => if h.isNull then none else some (h, u)
    | _ => none

theorem Deed.openings_append (deeds deeds' : List Deed) :
    openings (deeds ++ deeds') = openings deeds ++ openings deeds' :=
  List.filterMap_append

/-- The handle that a call was answered with, for the universal handle that the universal context
answered. -/
def answeredOpening (a : Except CallError Reply) (calls : CallRecord) : List (Handle × Handle) :=
  ((answeredHandle a).zip (received calls)).filter fun p => !p.1.isNull

/-- The handles that an operation opens, with the universal handles they are for: that of an
answered call, and those of deeds. -/
def SharedOp.opened (U : Universal τ) (c : DebugContext × τ) (op : SharedOp τ) :
    List (Handle × Handle) :=
  (match op with
    | .own (.call r) =>
      let (a, _, _, calls) := respond .first U.recorded.beside r (c.1, c.2, [])
      answeredOpening a calls
    | _ => []) ++ Deed.openings (op.deeds U c)

/-- How many leak generations an operation starts. -/
def SharedOp.generations : SharedOp τ → Nat
  | .own .newGeneration => 1
  | _ => 0

/-! ### Runs of a table -/

namespace HandleTable

variable {t t' t'' : HandleTable} {opened opened' : List (Handle × Handle)} {n n' : Nat}

/-- The table `t` becomes `t'` by a run that issues `opened` and starts `n` leak generations. -/
def Evolves (t : HandleTable) (opened : List (Handle × Handle)) (n : Nat) (t' : HandleTable) :
    Prop :=
  ∃ ops, t' = t.run ops ∧ t.issued ops = opened ∧ generations ops = n

theorem Evolves.refl (t : HandleTable) : t.Evolves [] 0 t := ⟨[], rfl, rfl, rfl⟩

theorem Evolves.trans (h : t.Evolves opened n t') (h' : t'.Evolves opened' n' t'') :
    t.Evolves (opened ++ opened') (n + n') t'' := by
  obtain ⟨ops, rfl, rfl, rfl⟩ := h
  obtain ⟨ops', rfl, rfl, rfl⟩ := h'
  exact ⟨ops ++ ops', (run_append t ops ops').symm, collect_append issuedBy t ops ops',
    generations_append ops ops'⟩

/-- One operation. -/
theorem evolves_perform (t : HandleTable) (op : TableOp) :
    t.Evolves (t.issuedBy op) (HandleTable.generations [op]) (t.perform op) :=
  ⟨[op], rfl, List.append_nil _, rfl⟩

/-- One operation that starts no generation. -/
theorem evolves_perform_of_ne (t : HandleTable) {op : TableOp} (hop : op ≠ .newGeneration) :
    t.Evolves (t.issuedBy op) 0 (t.perform op) :=
  generations_of_ne hop ▸ evolves_perform t op

end HandleTable

/-! ### The call path -/

/-- The context after an operation on its table. -/
def DebugContext.afterTable (d : DebugContext) (op : TableOp) : DebugContext :=
  { d with table := d.table.perform op }

/-- From `c` to `c'` the table moved by a run that issued `opened` and started no generation, and
the hook wrote down `results`. -/
structure Acts (c c' : DebugContext × σ) (results : List (Except CallError Handle))
    (opened : List (Handle × Handle)) : Prop where
  table : c.1.table.Evolves opened 0 c'.1.table
  hook : c'.1.hook = c.1.hook
  results_eq : c'.1.hookResults = c.1.hookResults ++ results

/-- From `c` to `c'` the hook may have been called. The context itself opened `opened`, and the hook
opened what it wrote down. -/
def ActsHooked (c c' : DebugContext × σ) (opened : List (Handle × Handle)) : Prop :=
  ∃ results, Acts c c' results (opened ++ Deed.openings ((c.1.hook.getD []).zip results))

namespace Acts

variable {c c' c'' : DebugContext × σ} {results results' : List (Except CallError Handle)}
  {opened opened' : List (Handle × Handle)} {U : Universal σ}

theorem refl (c : DebugContext × σ) : Acts c c [] [] :=
  ⟨.refl _, rfl, (List.append_nil _).symm⟩

theorem trans (h : Acts c c' results opened) (h' : Acts c' c'' results' opened') :
    Acts c c'' (results ++ results') (opened ++ opened') where
  table := h.table.trans h'.table
  hook := h'.hook.trans h.hook
  results_eq := by rw [h'.results_eq, h.results_eq, List.append_assoc]

theorem hooked (h : Acts c c' [] opened) : ActsHooked c c' opened := by
  refine ⟨[], ?_⟩
  rwa [List.zip_nil_right, Deed.openings, List.filterMap_nil, List.append_nil]

/-- An operation on the table of the context. -/
theorem onTable (d : DebugContext) (s : σ) (op : TableOp) (hop : op ≠ .newGeneration) :
    Acts (d, s) (d.afterTable op, s) [] (d.table.issuedBy op) :=
  ⟨HandleTable.evolves_perform_of_ne d.table hop, rfl, (List.append_nil _).symm⟩

/-- The universal context does not touch the table. -/
theorem beside (U : Universal σ) (r : Request) (c : DebugContext × σ) :
    Acts c (U.beside r c).2 [] [] :=
  ⟨.refl _, rfl, (List.append_nil _).symm⟩

theorem note (e : DebugError) (c : DebugContext × σ) :
    Acts c (DebugContext.note .first e c) [] [] := by
  obtain ⟨d, s⟩ := c
  rw [note_first]
  refine ⟨record_table d e ▸ .refl _, record_hook d e, ?_⟩
  rw [hookResults_record, List.append_nil]

/-! #### Checked operations -/

section

variable (onFail : DebugError → DebugContext × σ → DebugContext × σ) (d : DebugContext) (s : σ)

theorem checkOpen_cases (u : Handle) :
    (∃ h, DebugContext.checkOpen .first onFail u (d, s) = (.ok h, d.afterTable (.openHandle u), s) ∧
      d.table.issuedBy (.openHandle u) = if h.isNull then [] else [(h, u)]) ∨
    (∃ e, DebugContext.checkOpen .first onFail u (d, s) =
        (.error e, onFail e (d.afterTable (.openHandle u), s)) ∧
      d.table.issuedBy (.openHandle u) = []) := by
  rw [DebugContext.checkOpen, check_first, afterTable, HandleTable.perform, HandleTable.issuedBy]
  cases d.table.openHandle u with
  | mk a t =>
    cases a with
    | ok h => exact .inl ⟨h, rfl, rfl⟩
    | error e => exact .inr ⟨e, rfl, rfl⟩

theorem checkClose_cases (h : Handle) :
    (∃ u, DebugContext.checkClose .first onFail h (d, s) =
      (.ok u, d.afterTable (.close h), s)) ∨
    (∃ e, DebugContext.checkClose .first onFail h (d, s) =
      (.error e, onFail e (d.afterTable (.close h), s))) := by
  rw [DebugContext.checkClose, check_first, afterTable, HandleTable.perform]
  cases d.table.close h with
  | mk a t =>
    cases a with
    | ok u => exact .inl ⟨u, rfl⟩
    | error e => exact .inr ⟨e, rfl⟩

end

/-! #### Hooks -/

/-- An action of the hook opens what its deed says. -/
theorem perform (U : Universal σ) (a : HookAction) (d : DebugContext) (s : σ) :
    Acts (d, s) (DebugContext.perform .first U.beside a (d, s)).2 []
      (Deed.openings [(a, (DebugContext.perform .first U.beside a (d, s)).1)]) := by
  have hclosed (h : Handle) : Acts (d, s) (d.afterTable (.close h), s) [] [] :=
    onTable d s _ (by simp)
  cases a with
  | resolve h =>
    simp only [DebugContext.perform]
    obtain ⟨u, hres⟩ | ⟨e, hres⟩ := checkResolve_first (DebugContext.note .first) h (d, s)
    · rw [hres]
      exact refl (d, s)
    · rw [hres]
      exact note e (d, s)
  | closeHandle h =>
    simp only [DebugContext.perform]
    obtain ⟨u, hclose⟩ | ⟨e, hclose⟩ := checkClose_cases (DebugContext.note .first) d s h
    · rw [hclose]
      exact hclosed h
    · rw [hclose]
      exact (hclosed h).trans (note e _)
  | openHandle u =>
    simp only [DebugContext.perform]
    have hopened := onTable d s (.openHandle u) (by simp)
    obtain ⟨h, hopen, hissued⟩ | ⟨e, hopen, hissued⟩ :=
      checkOpen_cases (DebugContext.note .first) d s u
    · rw [hissued] at hopened
      rw [hopen]
      cases hnull : h.isNull <;> simpa [Deed.openings, Except.mapError, hnull] using hopened
    · rw [hissued] at hopened
      rw [hopen]
      exact hopened.trans (note e _)
  | close h =>
    simp only [DebugContext.perform, DebugContext.closeThrough]
    obtain ⟨u, hclose⟩ | ⟨e, hclose⟩ := checkClose_cases (DebugContext.note .first) d s h
    · rw [hclose]
      dsimp only
      split
      · exact hclosed h
      · exact (hclosed h).trans (beside U (.close u) _)
    · rw [hclose]
      exact (hclosed h).trans (note e _)
  | universalClose u => exact beside U (.close u) (d, s)

/-- The actions of the hook, one after another. -/
theorem foldl_performNoted (U : Universal σ) (actions : List HookAction) (c : DebugContext × σ) :
    ∃ results, Acts c (actions.foldl (DebugContext.performNoted .first U.beside) c) results
      (Deed.openings (actions.zip results)) := by
  induction actions generalizing c with
  | nil => exact ⟨[], refl c⟩
  | cons a actions ih =>
    have hacts := perform U a c.1 c.2
    generalize hperform : DebugContext.perform .first U.beside a (c.1, c.2) = p at hacts
    obtain ⟨r, c'⟩ := p
    have hnoted : Acts c (DebugContext.performNoted .first U.beside c a) [r]
        (Deed.openings [(a, r)]) := by
      rw [DebugContext.performNoted, hperform]
      refine ⟨hacts.table, hacts.hook, ?_⟩
      have hresults := hacts.results_eq
      rw [List.append_nil] at hresults
      rw [← hresults]
      exact hookResults_performed c'.1 r
    obtain ⟨results, hrest⟩ := ih (DebugContext.performNoted .first U.beside c a)
    refine ⟨r :: results, ?_⟩
    have hboth := hnoted.trans hrest
    rwa [← Deed.openings_append] at hboth

end Acts

namespace ActsHooked

variable {c c' c'' : DebugContext × σ} {opened opened' : List (Handle × Handle)} {U : Universal σ}

/-- The hook is called before the universal context is called for the last time, or not at all. -/
theorem trans (h : ActsHooked c c' opened) (h' : Acts c' c'' [] []) : ActsHooked c c'' opened := by
  obtain ⟨results, hacts⟩ := h
  have hboth := hacts.trans h'
  rw [List.append_nil, List.append_nil] at hboth
  exact ⟨results, hboth⟩

theorem after (h : Acts c c' [] []) (h' : ActsHooked c' c'' opened) : ActsHooked c c'' opened := by
  obtain ⟨results, hacts⟩ := h'
  rw [h.hook] at hacts
  exact ⟨results, h.trans hacts⟩

/-- A failed check goes to the log, and then the hook acts. -/
theorem report (U : Universal σ) (e : DebugError) (c : DebugContext × σ) :
    ActsHooked c (DebugContext.report .first U.beside e c) [] := by
  obtain ⟨d, s⟩ := c
  have hnote := Acts.note e (d, s)
  rw [note_first] at hnote
  obtain ⟨results, hacts⟩ := Acts.foldl_performNoted U (d.hook.getD []) (d.record e, s)
  rw [report_first, record_hook]
  exact ⟨results, hnote.trans hacts⟩

/-! #### Calls -/

/-- A handle that came back is wrapped, or else closed again. -/
theorem wrap (U : Universal σ) (u : Handle) (d : DebugContext) (s : σ) :
    (∃ h, DebugContext.wrap .first U.beside u (d, s) =
        (.ok (.handle h), d.afterTable (.openHandle u), s) ∧
      ActsHooked (d, s) (d.afterTable (.openHandle u), s) (if h.isNull then [] else [(h, u)])) ∨
    (∃ e c', DebugContext.wrap .first U.beside u (d, s) = (.error (.check e), c') ∧
      ActsHooked (d, s) c' []) := by
  have hopened := Acts.onTable d s (.openHandle u) (by simp)
  rw [DebugContext.wrap, DebugContext.openHandle]
  obtain ⟨h, hopen, hissued⟩ | ⟨e, hopen, hissued⟩ :=
    Acts.checkOpen_cases (DebugContext.report .first U.beside) d s u
  · rw [hissued] at hopened
    rw [hopen]
    exact .inl ⟨h, rfl, hopened.hooked⟩
  · rw [hissued] at hopened
    rw [hopen]
    exact .inr ⟨e, _, rfl, (after hopened (report U e _)).trans (Acts.beside U (.close u) _)⟩

/-- A call that is passed on opens the handle that it is answered with. -/
theorem forward (V : Universal τ) {r : Request} (hr : ∀ h, r ≠ .close h) (d : DebugContext)
    (v : τ) :
    let p := DebugContext.forward .first V.recorded.beside r (d, v, [])
    ActsHooked (d, v, []) p.2 (answeredOpening p.1 p.2.2.2) := by
  have hcall := Acts.beside V.recorded r (d, v, [])
  have hreceived (u : Handle) : received [(r, .ok (.handle u))] = [u] := by
    cases r with
    | close h => exact absurd rfl (hr h)
    | _ => rfl
  obtain ⟨a, v', hanswer⟩ : ∃ a v', V.recorded.beside r (d, v, []) = (a, d, v', [(r, a)]) :=
    ⟨_, _, rfl⟩
  rw [hanswer] at hcall
  rw [DebugContext.forward, hanswer]
  cases a with
  | error e => exact hcall.hooked
  | ok reply =>
    cases reply with
    | handle u =>
      obtain ⟨h, hwrap, hacts⟩ | ⟨e, c', hwrap, hacts⟩ :=
        wrap V.recorded u d (v', [(r, .ok (.handle u))])
      · dsimp only
        rw [hwrap]
        have hopening : answeredOpening (.ok (.handle h)) [(r, .ok (.handle u))] =
            if h.isNull then [] else [(h, u)] := by
          rw [answeredOpening, hreceived]
          cases hnull : h.isNull <;> simp [answeredHandle, hnull]
        rw [hopening]
        exact after hcall hacts
      · dsimp only
        rw [hwrap]
        exact after hcall hacts
    | _ => exact hcall.hooked

/-- A handle is closed here first, and then in the universal context. Nothing is opened. -/
theorem closeThrough (V : Universal τ) (h : Handle) (d : DebugContext) (v : τ) :
    let p := DebugContext.closeThrough .first V.recorded.beside
      (DebugContext.report .first V.recorded.beside) h (d, v, [])
    ActsHooked (d, v, []) p.2 (answeredOpening p.1 p.2.2.2) := by
  have hclosed := Acts.onTable d (v, ([] : CallRecord)) (.close h) (by simp)
  rw [DebugContext.closeThrough]
  obtain ⟨u, hclose⟩ | ⟨e, hclose⟩ :=
    Acts.checkClose_cases (DebugContext.report .first V.recorded.beside) d (v, []) h
  · rw [hclose]
    cases hnull : u.isNull with
    | true =>
      simp only [hnull, if_true]
      exact hclosed.hooked
    | false =>
      obtain ⟨a, v', hanswer⟩ : ∃ a v',
          V.recorded.beside (.close u) (d.afterTable (.close h), v, []) =
            (a, d.afterTable (.close h), v', [(.close u, a)]) := ⟨_, _, rfl⟩
      have hpassed := Acts.beside V.recorded (.close u) (d.afterTable (.close h), v, [])
      have hnothing : answeredOpening a [(.close u, a)] = [] := by
        rw [answeredOpening, received, List.filterMap_cons_none rfl, List.filterMap_nil,
          List.zip_nil_right, List.filter_nil]
      simp only [hnull, Bool.false_eq_true, if_false]
      rw [hanswer] at hpassed ⊢
      rw [hnothing]
      exact (hclosed.trans hpassed).hooked
  · rw [hclose]
    exact after hclosed (report V.recorded e _)

/-- A call opens the handle that it is answered with. -/
theorem respond (V : Universal τ) (r : Request) (d : DebugContext) (v : τ) :
    let p := DebugContext.respond .first V.recorded.beside r (d, v, [])
    ActsHooked (d, v, []) p.2 (answeredOpening p.1 p.2.2.2) := by
  by_cases hr : ∃ h, r = .close h
  · obtain ⟨h, rfl⟩ := hr
    exact closeThrough V h d v
  · rw [not_exists] at hr
    rw [respond_first V.recorded.beside hr]
    cases hresolve : r.handles.mapM d.table.resolve with
    | ok us => exact forward V (withHandles_ne_close us hr) d v
    | error e => exact report V.recorded e (d, v, [])

end ActsHooked

/-! ### Operations -/

/-- What the table went through while an operation ran. The hook wrote down what it did. -/
private theorem ActsHooked.evolves {c c' : DebugContext × σ} {opened : List (Handle × Handle)}
    (h : ActsHooked c c' opened) :
    c.1.table.Evolves (opened ++ Deed.openings
      ((c.1.hook.getD []).zip (c'.1.hookResults.drop c.1.hookResults.length))) 0 c'.1.table := by
  obtain ⟨results, hacts⟩ := h
  rw [hacts.results_eq, List.drop_left]
  exact hacts.table

/-- An operation on the context moves its table by a run, which issues what the operation opens. -/
theorem SharedOp.apply_evolves (U : Universal τ) (c : DebugContext × τ) (op : SharedOp τ) :
    c.1.table.Evolves (op.opened U c) op.generations (op.apply U c).1.table := by
  obtain ⟨d, u⟩ := c
  -- The deeds of an operation are its own and those of the hook.
  have settled {c' : DebugContext × τ} {opened : List (Handle × Handle)} (own : List Deed)
      (h : ActsHooked (d, u) c' opened) (hown : Deed.openings own = opened) :
      d.table.Evolves ([] ++ Deed.openings (own ++
        (d.hook.getD []).zip (c'.1.hookResults.drop d.hookResults.length))) 0 c'.1.table := by
    rw [List.nil_append, Deed.openings_append, hown]
    exact h.evolves
  -- An operation that checks nothing calls no hook.
  have unchecked {n : Nat} {t : HandleTable} (h : d.table.Evolves [] n t) :
      d.table.Evolves ([] ++ Deed.openings ([] ++
        (d.hook.getD []).zip (d.hookResults.drop d.hookResults.length))) n t := by
    rwa [List.drop_length, List.zip_nil_right, Deed.openings, List.append_nil, List.filterMap_nil,
      List.append_nil]
  cases op with
  | openHandle k =>
    have hopened := Acts.onTable d u (.openHandle k) (by simp)
    simp only [SharedOp.opened, SharedOp.deeds, SharedOp.ownDeeds, SharedOp.apply,
      DebugContext.openHandle]
    obtain ⟨h, hopen, hissued⟩ | ⟨e, hopen, hissued⟩ :=
      Acts.checkOpen_cases (DebugContext.report .first U.beside) d u k
    · rw [hissued] at hopened
      rw [hopen]
      refine settled _ hopened.hooked ?_
      cases hnull : h.isNull <;> simp [Deed.openings, Except.mapError, hnull]
    · rw [hissued] at hopened
      rw [hopen]
      exact settled _ (.after hopened (.report U e _)) rfl
  | outside f => exact unchecked (.refl _)
  | own op =>
    cases op with
    | call r =>
      have hacts := (ActsHooked.respond U r d u).evolves
      have hplain : DebugContext.respond .first U.beside r (d, u) = _ :=
        respond_along (agree_recorded U) r (d, u, [])
      simp only [SharedOp.opened, SharedOp.deeds, SharedOp.ownDeeds, SharedOp.apply,
        ContextOp.apply, hplain]
      exact hacts
    | resolve h =>
      simp only [SharedOp.opened, SharedOp.deeds, SharedOp.ownDeeds, SharedOp.apply,
        ContextOp.apply, DebugContext.resolve]
      obtain ⟨k, hres⟩ | ⟨e, hres⟩ :=
        checkResolve_first (DebugContext.report .first U.beside) h (d, u)
      · rw [hres]
        exact settled [] (Acts.refl (d, u)).hooked rfl
      · rw [hres]
        exact settled [] (.report U e (d, u)) rfl
    | closeHandle h =>
      have hclosed := Acts.onTable d u (.close h) (by simp)
      simp only [SharedOp.opened, SharedOp.deeds, SharedOp.ownDeeds, SharedOp.apply,
        ContextOp.apply, DebugContext.closeHandle]
      obtain ⟨k, hclose⟩ | ⟨e, hclose⟩ :=
        Acts.checkClose_cases (DebugContext.report .first U.beside) d u h
      · rw [hclose]
        exact settled _ hclosed.hooked rfl
      · rw [hclose]
        exact settled _ (.after hclosed (.report U e _)) rfl
    | setClosedQueueMax max =>
      exact unchecked (HandleTable.evolves_perform _ (.setClosedQueueMax max))
    | newGeneration => exact unchecked (HandleTable.evolves_perform _ .newGeneration)
    | setHook hook => exact unchecked (.refl _)

end HandleGuard
