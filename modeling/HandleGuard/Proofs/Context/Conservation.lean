import HandleGuard.Proofs.Context.Ledger
import HandleGuard.Proofs.Table.Bindings

/-!
# Closes are conserved

Every universal handle that comes to a debug context is still wrapped by an open debug handle, or was
passed to `close` once, or was handed out. The law holds handle by handle and with multiplicity, for
all universal contexts, whatever they answer and whoever else uses them (`closes_conserved`).

`owed` is how often a handle is wrapped or was closed, less how often it was received. The functions
of the call path are followed by `Moves`, which says how `owed` changes from one state to the next
and which debug handles are new. A function that may fail its check ends with a report, and then the
hook acts; `Reports` adds what it did.

* `Moves.closeThrough`, `Reports.wrap`, `Reports.forward`   where a handle is under way
* `Reports.apply`                                           any operation
* `Moves.run`                                               any run
-/

namespace HandleGuard

open DebugContext CallRecord

variable {τ : Type} {U : Universal τ} {k : Handle}

/-- A debug context beside a universal context that keeps a record. -/
abbrev Recorded (τ : Type) := DebugContext × τ × CallRecord

/-- How often the context owes `k`: open handles that wrap it and closes that were passed on, less
the calls that were answered with it. -/
def owed (k : Handle) (c : Recorded τ) : Int :=
  c.1.table.wrapped.count k + (closes c.2.2).count k - (received c.2.2).count k

/-- What deeds add to what is owed. A `close` behind the back of the context is on record too, so it
counts like a handle that is brought in. -/
def Deed.balance (k : Handle) (deeds : List Deed) : Int :=
  (opened deeds).count k + (closedDirectly deeds).count k - (handedOut deeds).count k

@[simp] theorem Deed.balance_nil (k : Handle) : balance k [] = 0 := rfl

theorem Deed.balance_append (k : Handle) (deeds deeds' : List Deed) :
    balance k (deeds ++ deeds') = balance k deeds + balance k deeds' := by
  simp only [balance, opened, closedDirectly, handedOut, List.filterMap_append, List.count_append]
  omega

theorem Deed.issued_append (deeds deeds' : List Deed) :
    issued (deeds ++ deeds') = issued deeds ++ issued deeds' :=
  List.filterMap_append

/-- From `c` to `c'` the hook wrote down `results`, what is owed grew by `δ`, and all debug handles
that were bound to something else before, or to nothing, are among `issued`. -/
structure Moves (k : Handle) (c c' : Recorded τ) (results : List (Except CallError Handle)) (δ : Int)
    (issued : List Handle) : Prop where
  table : c'.1.table.WellFormed
  hook : c'.1.hook = c.1.hook
  results_eq : c'.1.hookResults = c.1.hookResults ++ results
  owed_eq : owed k c' = owed k c + δ
  bound : ∀ b ∈ c'.1.table.bindings, b ∈ c.1.table.bindings ∨ b.1 ∈ issued

/-- From `c` to `c'` the hook may have been called. What is owed grew by `δ` and by what the hook
did, and the new debug handles are among `issued` and those that the hook opened. -/
def Reports (k : Handle) (c c' : Recorded τ) (δ : Int) (issued : List Handle) : Prop :=
  ∃ results, Moves k c c' results (δ + Deed.balance k ((c.1.hook.getD []).zip results))
    (issued ++ Deed.issued ((c.1.hook.getD []).zip results))

namespace Moves

variable {c c' c'' : Recorded τ} {results results' : List (Except CallError Handle)} {δ δ' : Int}
  {issued issued' : List Handle}

theorem refl (hc : c.1.table.WellFormed) : Moves k c c [] 0 [] :=
  ⟨hc, rfl, (List.append_nil _).symm, (Int.add_zero _).symm, fun _ hb => .inl hb⟩

theorem trans (h : Moves k c c' results δ issued) (h' : Moves k c' c'' results' δ' issued') :
    Moves k c c'' (results ++ results') (δ + δ') (issued ++ issued') where
  table := h'.table
  hook := h'.hook.trans h.hook
  results_eq := by rw [h'.results_eq, h.results_eq, List.append_assoc]
  owed_eq := by rw [h'.owed_eq, h.owed_eq, Int.add_assoc]
  bound := fun b hb => by
    rcases h'.bound b hb with hb | hb
    · exact (h.bound b hb).imp_right (List.mem_append_left _)
    · exact .inr (List.mem_append_right _ hb)

/-- The same with another account of the changes. -/
theorem recount (h : Moves k c c' results δ issued) (hδ : δ' = δ)
    (hissued : ∀ x ∈ issued, x ∈ issued') : Moves k c c' results δ' issued' :=
  { h with owed_eq := by rw [hδ, h.owed_eq], bound := fun b hb => (h.bound b hb).imp_right (hissued _) }

theorem reports (h : Moves k c c' [] δ issued) : Reports k c c' δ issued := by
  refine ⟨[], h.recount ?_ fun x hx => List.mem_append_left _ hx⟩
  rw [List.zip_nil_right, Deed.balance_nil, Int.add_zero]

/-! ### Table, store and log -/

/-- A table that owes what it owed, up to `δ`, and issued what it says. -/
private theorem ofTable {t : HandleTable} (ht : t.WellFormed)
    (hcount : (t.wrapped.count k : Int) = c.1.table.wrapped.count k + δ)
    (hbound : ∀ b ∈ t.bindings, b ∈ c.1.table.bindings ∨ b.1 ∈ issued) :
    Moves k c ({ c.1 with table := t }, c.2) [] δ issued := by
  refine ⟨ht, rfl, (List.append_nil _).symm, ?_, hbound⟩
  simp only [owed]
  omega

/-- A call on the universal context goes on record. -/
theorem universal (hc : c.1.table.WellFormed) (r : Request) :
    Moves k c (U.recorded.beside r c).2 []
      ((closes [(r, (U.recorded.beside r c).1)]).count k -
        (received [(r, (U.recorded.beside r c).1)]).count k) [] := by
  obtain ⟨d, u, calls⟩ := c
  refine ⟨hc, rfl, (List.append_nil _).symm, ?_, fun _ hb => .inl hb⟩
  simp only [owed, Universal.beside, Universal.recorded, closes_append, received_append,
    List.count_append]
  omega

/-- A failed check leaves no result in the notes. -/
theorem note (hc : c.1.table.WellFormed) (e : DebugError) :
    Moves k c (DebugContext.note .first e c) [] 0 [] := by
  obtain ⟨d, u, calls⟩ := c
  rw [note_first]
  refine ⟨by rwa [record_table], record_hook d e, ?_, ?_, fun b hb => .inl ?_⟩
  · rw [hookResults_record, List.append_nil]
  · simp only [owed, record_table, Int.add_zero]
  · rwa [record_table] at hb

/-! ### Checked operations -/

variable (onFail : DebugError → Recorded τ → Recorded τ)

/-- A table that binds one more handle for `u`, as the counts see it. -/
theorem count_of_perm {l l' : List Handle} {u : Handle} (hperm : l.Perm (u :: l')) :
    (l.count k : Int) = l'.count k + [u].count k := by
  rw [hperm.count_eq, ← List.singleton_append, List.count_append]
  omega

/-- Null is not counted. -/
theorem count_null (hk : k ≠ .null) : ([Handle.null].count k : Int) = 0 := by
  rw [List.count_cons_of_ne hk.symm, List.count_nil]
  rfl

theorem checkOpen (hk : k ≠ .null) (hc : c.1.table.WellFormed) (u : Handle) :
    (∃ h c', DebugContext.checkOpen .first onFail u c = (.ok h, c') ∧
      Moves k c c' [] ([u].count k) [h]) ∨
    (∃ e, DebugContext.checkOpen .first onFail u c = (.error e, onFail e c)) := by
  obtain ⟨d, s⟩ := c
  rw [DebugContext.checkOpen, check_first]
  by_cases hu : u = .null
  · subst hu
    exact .inl ⟨.null, (d, s), rfl, (refl hc).recount (count_null hk) (List.forall_mem_nil _)⟩
  · obtain ⟨h, t, hopen, ht, -, hperm⟩ | ⟨hopen, -⟩ := HandleTable.openHandle_bindings hc hu
    · rw [hopen]
      refine .inl ⟨h, _, rfl, ofTable ht (count_of_perm (hperm.map Prod.snd)) fun b hb => ?_⟩
      rcases List.mem_cons.mp (hperm.mem_iff.mp hb) with rfl | hb
      · exact .inr (List.mem_singleton.mpr rfl)
      · exact .inl hb
    · rw [hopen]
      -- The table is full and stays as it is.
      exact .inr ⟨_, rfl⟩

theorem checkClose (hk : k ≠ .null) (hc : c.1.table.WellFormed) (h : Handle) :
    (∃ u c', DebugContext.checkClose .first onFail h c = (.ok u, c') ∧
      Moves k c c' [] (-[u].count k) []) ∨
    (∃ e, DebugContext.checkClose .first onFail h c = (.error e, onFail e c)) := by
  obtain ⟨d, s⟩ := c
  rw [DebugContext.checkClose, check_first]
  obtain ⟨-, hclose⟩ | ⟨u, t, hclose, -, -, ht, -, hperm⟩ | ⟨e, hclose, -⟩ :=
    HandleTable.close_bindings hc h
  · rw [hclose]
    refine .inl ⟨.null, (d, s), rfl, (refl hc).recount ?_ (List.forall_mem_nil _)⟩
    rw [count_null hk]
    rfl
  · rw [hclose]
    refine .inl ⟨u, _, rfl, ofTable ht ?_ fun b hb => ?_⟩
    · have hcount : (d.table.wrapped.count k : Int) = t.wrapped.count k + [u].count k :=
        count_of_perm (hperm.map Prod.snd)
      show (t.wrapped.count k : Int) = d.table.wrapped.count k + -[u].count k
      omega
    · exact .inl (hperm.mem_iff.mpr (List.mem_cons_of_mem _ hb))
  · rw [hclose]
    exact .inr ⟨e, rfl⟩

/-- A handle that leaves the table is closed at once, so nothing changes in sum. -/
theorem closeThrough (hk : k ≠ .null) (hc : c.1.table.WellFormed) (h : Handle) :
    (∃ a c', DebugContext.closeThrough .first U.recorded.beside onFail h c = (a, c') ∧
      Moves k c c' [] 0 []) ∨
    (∃ e, DebugContext.closeThrough .first U.recorded.beside onFail h c =
      (.error (.check e), onFail e c)) := by
  rw [DebugContext.closeThrough]
  obtain ⟨u, c', hclose, hm⟩ | ⟨e, hclose⟩ := checkClose onFail hk hc h
  · rw [hclose]
    dsimp only
    split
    · rename_i hnull
      rw [Handle.isNull_iff.mp hnull, count_null hk] at hm
      exact .inl ⟨_, c', rfl, hm⟩
    · refine .inl ⟨_, _, rfl, (hm.trans (universal hm.table (.close u))).recount ?_ (List.forall_mem_nil _)⟩
      simp only [closes, received, List.filterMap_cons, List.filterMap_nil, List.count_nil]
      omega
  · rw [hclose]
    exact .inr ⟨e, rfl⟩

/-! ### Hooks -/

/-- An action of the hook changes what is owed as its deed says. -/
theorem perform (hk : k ≠ .null) (hc : c.1.table.WellFormed) (a : HookAction) :
    ∃ r c', DebugContext.perform .first U.recorded.beside a c = (r, c') ∧
      Moves k c c' [] (Deed.balance k [(a, r)]) (Deed.issued [(a, r)]) := by
  have hnote := fun e => note (k := k) hc e
  cases a with
  | resolve h =>
    simp only [DebugContext.perform]
    obtain ⟨u, hres⟩ | ⟨e, hres⟩ := checkResolve_first (DebugContext.note .first) h c
    · rw [hres]
      exact ⟨_, _, rfl, refl hc⟩
    · rw [hres]
      exact ⟨_, _, rfl, hnote e⟩
  | closeHandle h =>
    simp only [DebugContext.perform]
    obtain ⟨u, c', hclose, hm⟩ | ⟨e, hclose⟩ := checkClose (DebugContext.note .first) hk hc h
    · rw [hclose]
      refine ⟨.ok u, c', rfl, hm.recount ?_ (List.forall_mem_nil _)⟩
      simp [Deed.balance, Deed.opened, Deed.handedOut, Deed.closedDirectly]
    · rw [hclose]
      exact ⟨_, _, rfl, hnote e⟩
  | openHandle u =>
    simp only [DebugContext.perform]
    obtain ⟨h, c', hopen, hm⟩ | ⟨e, hopen⟩ := checkOpen (DebugContext.note .first) hk hc u
    · rw [hopen]
      refine ⟨.ok h, c', rfl, hm.recount ?_ fun x hx => hx⟩
      simp [Deed.balance, Deed.opened, Deed.handedOut, Deed.closedDirectly]
    · rw [hopen]
      exact ⟨_, _, rfl, hnote e⟩
  | close h =>
    simp only [DebugContext.perform]
    obtain ⟨a, c', hclose, hm⟩ | ⟨e, hclose⟩ :=
      closeThrough (U := U) (DebugContext.note .first) hk hc h
    · rw [hclose]
      exact ⟨_, _, rfl, hm⟩
    · rw [hclose]
      exact ⟨_, _, rfl, hnote e⟩
  | universalClose u =>
    refine ⟨_, _, rfl, (universal hc (.close u)).recount ?_ (List.forall_mem_nil _)⟩
    simp [Deed.balance, Deed.opened, Deed.handedOut, Deed.closedDirectly, closes, received]

theorem performNoted (hk : k ≠ .null) (hc : c.1.table.WellFormed) (a : HookAction) :
    ∃ r, Moves k c (DebugContext.performNoted .first U.recorded.beside c a) [r]
      (Deed.balance k [(a, r)]) (Deed.issued [(a, r)]) := by
  obtain ⟨r, c', hperform, hm⟩ := perform (U := U) hk hc a
  refine ⟨r, ?_⟩
  rw [DebugContext.performNoted, hperform]
  refine ⟨hm.table, hm.hook, ?_, hm.owed_eq, hm.bound⟩
  have hresults := hm.results_eq
  rw [List.append_nil] at hresults
  rw [← hresults]
  exact hookResults_performed c'.1 r

/-- The actions of the hook, one after another. -/
theorem foldl_performNoted (hk : k ≠ .null) (hc : c.1.table.WellFormed)
    (actions : List HookAction) :
    ∃ results, Moves k c (actions.foldl (DebugContext.performNoted .first U.recorded.beside) c)
      results (Deed.balance k (actions.zip results)) (Deed.issued (actions.zip results)) := by
  induction actions generalizing c with
  | nil => exact ⟨[], refl hc⟩
  | cons a actions ih =>
    obtain ⟨r, hm⟩ := performNoted (U := U) hk hc a
    obtain ⟨results, hrest⟩ := ih hm.table
    refine ⟨r :: results, ?_⟩
    have hboth := hm.trans hrest
    rwa [← Deed.balance_append, ← Deed.issued_append] at hboth

end Moves

namespace Reports

variable {c c' c'' : Recorded τ} {δ δ' : Int} {issued issued' : List Handle}

theorem table (h : Reports k c c' δ issued) : c'.1.table.WellFormed := by
  obtain ⟨_, hm⟩ := h
  exact hm.table

theorem recount (h : Reports k c c' δ issued) (hδ : δ' = δ)
    (hissued : ∀ x ∈ issued, x ∈ issued') : Reports k c c' δ' issued' := by
  obtain ⟨results, hm⟩ := h
  refine ⟨results, hm.recount (by rw [hδ]) fun x hx => ?_⟩
  rcases List.mem_append.mp hx with hx | hx
  · exact List.mem_append_left _ (hissued x hx)
  · exact List.mem_append_right _ hx

/-- The hook is called once at most, before or after anything else happens. -/
theorem trans (h : Reports k c c' δ issued) (h' : Moves k c' c'' [] δ' issued') :
    Reports k c c'' (δ + δ') (issued ++ issued') := by
  obtain ⟨results, hm⟩ := h
  refine ⟨results, ?_⟩
  have hboth := hm.trans h'
  rw [List.append_nil] at hboth
  refine hboth.recount (by omega) fun x hx => ?_
  simp only [List.mem_append] at hx ⊢
  rcases hx with (hx | hx) | hx
  · exact .inl (.inl hx)
  · exact .inr hx
  · exact .inl (.inr hx)

theorem after (h : Moves k c c' [] δ issued) (h' : Reports k c' c'' δ' issued') :
    Reports k c c'' (δ + δ') (issued ++ issued') := by
  obtain ⟨results, hm⟩ := h'
  rw [h.hook] at hm
  exact ⟨results, (h.trans hm).recount (by omega) fun x hx => by rwa [List.append_assoc]⟩

/-- A failed check goes to the log, and then the hook acts. -/
theorem report (hk : k ≠ .null) (hc : c.1.table.WellFormed) (e : DebugError) :
    Reports k c (DebugContext.report .first U.recorded.beside e c) 0 [] := by
  obtain ⟨d, s⟩ := c
  have hnote : Moves k (d, s) (d.record e, s) [] 0 [] := Moves.note hc e
  rw [report_first, record_hook]
  obtain ⟨results, hm⟩ := Moves.foldl_performNoted (U := U) hk hnote.table (d.hook.getD [])
  exact ⟨results, hnote.trans hm⟩

/-! ### Calls -/

/-- A handle under way is wrapped, or else closed again. -/
theorem wrap (hk : k ≠ .null) (hc : c.1.table.WellFormed) (u : Handle) :
    Reports k c (DebugContext.wrap .first U.recorded.beside u c).2 ([u].count k)
      (answeredHandle (DebugContext.wrap .first U.recorded.beside u c).1) := by
  rw [DebugContext.wrap, DebugContext.openHandle]
  obtain ⟨h, c', hopen, hm⟩ | ⟨e, hopen⟩ :=
    Moves.checkOpen (DebugContext.report .first U.recorded.beside) hk hc u
  · rw [hopen]
    exact hm.reports
  · rw [hopen]
    have hreport := report (U := U) hk hc e
    refine (hreport.trans (Moves.universal hreport.table (.close u))).recount ?_ (List.forall_mem_nil _)
    simp [closes, received]

/-- A handle that comes back is under way until it is wrapped. -/
theorem forward (hk : k ≠ .null) (hc : c.1.table.WellFormed) {r : Request}
    (hr : ∀ h, r ≠ .close h) :
    Reports k c (DebugContext.forward .first U.recorded.beside r c).2 0
      (answeredHandle (DebugContext.forward .first U.recorded.beside r c).1) := by
  have hcall := Moves.universal (U := U) (k := k) hc r
  rw [DebugContext.forward]
  generalize U.recorded.beside r c = p at hcall
  obtain ⟨a, c'⟩ := p
  have hcloses : closes [(r, a)] = [] := by
    cases r with
    | close h => exact absurd rfl (hr h)
    | _ => rfl
  have hreceived : received [(r, a)] = answeredHandle a := by
    cases r with
    | close h => exact absurd rfl (hr h)
    | _ =>
      cases a with
      | error e => rfl
      | ok reply => cases reply <;> rfl
  rw [hcloses, hreceived] at hcall
  split
  · rename_i u c₁ heq
    cases heq
    refine (after hcall (wrap (U := U) hk hcall.table u)).recount ?_ fun x hx => hx
    simp only [answeredHandle, List.count_nil]
    omega
  · rename_i c₁ hne heq
    cases heq
    have hnone : answeredHandle a = [] := by
      unfold answeredHandle
      split
      · rename_i h
        exact (hne h rfl).elim
      · rfl
    rw [hnone] at hcall
    rw [hnone]
    exact hcall.reports

/-- A call changes nothing that is owed, whatever becomes of it, except through the hook. -/
theorem respond (hk : k ≠ .null) (hc : c.1.table.WellFormed) (r : Request) :
    Reports k c (DebugContext.respond .first U.recorded.beside r c).2 0
      (answeredHandle (DebugContext.respond .first U.recorded.beside r c).1) := by
  by_cases hclose : ∃ h, r = .close h
  · obtain ⟨h, rfl⟩ := hclose
    rw [DebugContext.respond]
    obtain ⟨a, c', hres, hm⟩ | ⟨e, hres⟩ :=
      Moves.closeThrough (U := U) (DebugContext.report .first U.recorded.beside) hk hc h
    · rw [hres]
      exact hm.reports.recount rfl (List.forall_mem_nil _)
    · rw [hres]
      exact report hk hc e
  · obtain ⟨d, s⟩ := c
    have hne : ∀ h, r ≠ .close h := fun h hh => hclose ⟨h, hh⟩
    rw [respond_first _ hne]
    cases r.handles.mapM d.table.resolve with
    | error e => exact report hk hc e
    | ok us => exact forward hk hc (withHandles_ne_close us hne)

/-! ### Operations -/

/-- What an operation may change: as much is owed as its deeds say, and it tells which debug handles
are new. -/
def Settled (k : Handle) (U : Universal τ) (c : Recorded τ) (op : SharedOp τ) : Prop :=
  (op.recorded.apply U.recorded c).1.table.WellFormed ∧
  owed k (op.recorded.apply U.recorded c) =
    owed k c + Deed.balance k (op.recorded.deeds U.recorded c) ∧
  ∀ b ∈ (op.recorded.apply U.recorded c).1.table.bindings,
    b ∈ c.1.table.bindings ∨ b.1 ∈ op.recorded.issued U.recorded c

/-- The deeds of the hook are those that it wrote down. -/
private theorem settled {op : SharedOp τ} (own : List Handle)
    (h : Reports k c (op.recorded.apply U.recorded c)
      (Deed.balance k (op.recorded.ownDeeds U.recorded c)) own)
    (hown : ∀ x ∈ own, x ∈ op.recorded.issued U.recorded c) : Settled k U c op := by
  obtain ⟨results, hm⟩ := h
  have hdeeds : op.recorded.deeds U.recorded c =
      op.recorded.ownDeeds U.recorded c ++ (c.1.hook.getD []).zip results := by
    rw [SharedOp.deeds, hm.results_eq, List.drop_left]
  refine ⟨hm.table, ?_, fun b hb => (hm.bound b hb).imp_right fun hb => ?_⟩
  · rw [hm.owed_eq, hdeeds, Deed.balance_append]
  · rcases List.mem_append.mp hb with hb | hb
    · exact hown _ hb
    · refine List.mem_append_right _ ?_
      rw [hdeeds, Deed.issued_append]
      exact List.mem_append_right _ hb

/-- Any operation. -/
theorem apply (hk : k ≠ .null) (hc : c.1.table.WellFormed) (op : SharedOp τ) :
    Settled k U c op := by
  cases op with
  | outside f =>
    refine settled [] (Moves.reports ?_) nofun
    exact ⟨hc, rfl, (List.append_nil _).symm, (Int.add_zero _).symm, fun _ hb => .inl hb⟩
  | openHandle u =>
    obtain ⟨h, c', hopen, hm⟩ | ⟨e, hopen⟩ :=
      Moves.checkOpen (DebugContext.report .first U.recorded.beside) hk hc u
    · have hdeeds : (SharedOp.openHandle u : SharedOp τ).recorded.ownDeeds U.recorded c =
          [(.openHandle u, .ok h)] := by
        simp only [SharedOp.recorded, SharedOp.ownDeeds, DebugContext.openHandle, hopen]
        rfl
      refine settled [h] ?_ fun x hx => ?_
      · rw [hdeeds]
        simp only [SharedOp.recorded, SharedOp.apply, DebugContext.openHandle, hopen]
        refine hm.reports.recount ?_ fun x hx => hx
        simp [Deed.balance, Deed.opened, Deed.handedOut, Deed.closedDirectly]
      · refine List.mem_append_right _ ?_
        rw [SharedOp.deeds, hdeeds, Deed.issued_append]
        exact List.mem_append_left _ hx
    · refine settled [] ?_ nofun
      simp only [SharedOp.recorded, SharedOp.apply, SharedOp.ownDeeds, DebugContext.openHandle,
        hopen]
      exact report hk hc e
  | own op =>
    cases op with
    | call r => exact settled _ (respond hk hc r) fun x hx => List.mem_append_left _ hx
    | resolve h =>
      refine settled [] ?_ nofun
      simp only [SharedOp.recorded, SharedOp.apply, SharedOp.ownDeeds, ContextOp.apply,
        DebugContext.resolve]
      obtain ⟨u, hres⟩ | ⟨e, hres⟩ :=
        checkResolve_first (DebugContext.report .first U.recorded.beside) h c
      · rw [hres]
        exact (Moves.refl hc).reports
      · rw [hres]
        exact report hk hc e
    | closeHandle h =>
      refine settled [] ?_ nofun
      simp only [SharedOp.recorded, SharedOp.apply, SharedOp.ownDeeds, ContextOp.apply,
        DebugContext.closeHandle]
      obtain ⟨u, c', hclose, hm⟩ | ⟨e, hclose⟩ :=
        Moves.checkClose (DebugContext.report .first U.recorded.beside) hk hc h
      · rw [hclose]
        refine hm.reports.recount ?_ (List.forall_mem_nil _)
        show Deed.balance k [(.closeHandle h, .ok u)] = _
        simp [Deed.balance, Deed.opened, Deed.handedOut, Deed.closedDirectly]
      · rw [hclose]
        exact report hk hc e
    | setClosedQueueMax max =>
      obtain ⟨ht, -, hperm⟩ := HandleTable.setClosedQueueMax_bindings hc max
      refine settled [] (Moves.reports (Moves.ofTable ht ?_ fun b hb => ?_)) nofun
      · show (((c.1.table.setClosedQueueMax max).wrapped.count k : Nat) : Int) = _ + 0
        rw [HandleTable.wrapped, HandleTable.wrapped, (hperm.map Prod.snd).count_eq, Int.add_zero]
      · exact .inl (hperm.mem_iff.mp hb)
    | newGeneration =>
      obtain ⟨ht, hsame⟩ := HandleTable.newGeneration_bindings hc
      refine settled [] (Moves.reports (Moves.ofTable ht ?_ fun b hb => ?_)) nofun
      · rw [HandleTable.wrapped, HandleTable.wrapped, hsame]
        exact (Int.add_zero _).symm
      · exact .inl (hsame ▸ hb)
    | setHook hook =>
      -- No check is made, so the hook that is replaced has done nothing.
      have hdeeds : (SharedOp.own (.setHook hook) : SharedOp τ).recorded.deeds U.recorded c =
          [] := by
        show [] ++ (c.1.hook.getD []).zip (c.1.hookResults.drop c.1.hookResults.length) = []
        rw [List.drop_length, List.zip_nil_right, List.nil_append]
      refine ⟨hc, ?_, fun b hb => .inl hb⟩
      rw [hdeeds]
      exact (Int.add_zero _).symm

/-- Any run. -/
theorem run (hk : k ≠ .null) (hc : c.1.table.WellFormed) (ops : List (SharedOp τ)) :
    let c' := SharedOp.run U.recorded c (ops.map SharedOp.recorded)
    c'.1.table.WellFormed ∧
    owed k c' = owed k c +
      Deed.balance k (SharedOp.runDeeds U.recorded c (ops.map SharedOp.recorded)) ∧
    ∀ b ∈ c'.1.table.bindings,
      b ∈ c.1.table.bindings ∨
        b.1 ∈ SharedOp.runIssued U.recorded c (ops.map SharedOp.recorded) := by
  induction ops generalizing c with
  | nil => exact ⟨hc, (Int.add_zero _).symm, fun b hb => .inl hb⟩
  | cons op ops ih =>
    obtain ⟨ht, howed, hbound⟩ := apply (U := U) hk hc op
    obtain ⟨ht', howed', hbound'⟩ := ih ht
    refine ⟨ht', ?_, fun b hb => ?_⟩
    · rw [List.map_cons, SharedOp.runDeeds, SharedOp.collect, Deed.balance_append]
      rw [SharedOp.run_cons, howed', howed, Int.add_assoc]
      rfl
    · rcases hbound' b hb with hb | hb
      · exact (hbound b hb).imp_right (List.mem_append_left _)
      · exact .inr (List.mem_append_right _ hb)

end Reports

/-! ### What follows for a handle -/

/-- Closing an open handle passes one `close` on, and its answer comes back. After that the handle
is bound to nothing. -/
theorem respond_close {d : DebugContext} (hd : d.table.WellFormed) {h u : Handle} (hh : h ≠ .null)
    (hres : d.table.resolve h = .ok u) (s : τ) :
    ∃ t, respond .first U.beside (.close h) (d, s) =
        ((U (.close u) s).1, { d with table := t }, (U (.close u) s).2) ∧
      t.WellFormed ∧ ∀ b ∈ t.bindings, b.1 ≠ h := by
  obtain ⟨hnull, -⟩ | ⟨v, t, hclose, -, hu, ht, -, hperm⟩ | ⟨e, hclose, -⟩ :=
    HandleTable.close_bindings hd h
  · exact absurd hnull hh
  · have hok := (HandleTable.close_eq_ok_iff hd).mpr hres
    rw [hclose] at hok
    cases hok
    refine ⟨t, ?_, ht, HandleTable.fst_ne_of_perm hd hperm⟩
    simp only [respond, closeThrough, checkClose, check_first, hclose,
      Handle.isNull_eq_false_iff.mpr hu]
    rfl
  · have hok := (HandleTable.close_eq_ok_iff hd).mpr hres
    rw [hclose] at hok
    cases hok

/-- Closing a handle that is bound to nothing is reported, and nothing is passed on. -/
theorem respond_close_unbound {d : DebugContext} (hd : d.table.WellFormed) {h : Handle}
    (hh : h ≠ .null) (hunbound : ∀ b ∈ d.table.bindings, b.1 ≠ h) (s : τ) :
    ∃ e, respond .first U.beside (.close h) (d, s) =
        (.error (.check e), report .first U.beside e (d, s)) ∧ e.handle? = some h := by
  obtain ⟨hnull, -⟩ | ⟨u, t, -, -, -, -, -, hperm⟩ | ⟨e, hclose, -, he⟩ :=
    HandleTable.close_bindings hd h
  · exact absurd hnull hh
  · exact absurd rfl (hunbound (h, u) (hperm.mem_iff.mpr List.mem_cons_self))
  · refine ⟨e, ?_, he⟩
    simp only [respond, closeThrough, checkClose, check_first, hclose]

/-- Closes are conserved. Take any run on a debug context before any universal context, with any
hooks, while others use the universal context too. Each universal handle but null was received as
often as it was closed or is still wrapped, where handles that were opened or handed out by hand
count as well, and of the closes on record those are left out that hooks made themselves. A debug
handle is closed with one `close` that is passed on, whatever the answer. Until it is issued again,
closing it is an error of the handle, and nothing is passed on. -/
theorem closes_conserved (U : Universal τ) (d : DebugContext) (tag closedQueueMax capacity : Nat)
    (htable : d.table = .withCapacity tag closedQueueMax capacity) (u : τ)
    (ops : List (SharedOp τ)) :
    let (d', u', calls) := SharedOp.run U.recorded (d, u, []) (ops.map SharedOp.recorded)
    let deeds := SharedOp.runDeeds U (d, u) ops
    SharedOp.run U (d, u) ops = (d', u') ∧
    (∀ k : Handle, k ≠ .null →
      (received calls).count k + (Deed.opened deeds).count k +
          (Deed.closedDirectly deeds).count k =
        (closes calls).count k + (Deed.handedOut deeds).count k + d'.table.wrapped.count k) ∧
    ∀ h k : Handle, h ≠ .null → d'.table.resolve h = .ok k →
      ∃ t, respond .first U.beside (.close h) (d', u') =
          ((U (.close k) u').1, { d' with table := t }, (U (.close k) u').2) ∧
        ∀ ops' : List (SharedOp τ),
          h ∉ SharedOp.runIssued U ({ d' with table := t }, (U (.close k) u').2) ops' →
          let c := SharedOp.run U ({ d' with table := t }, (U (.close k) u').2) ops'
          ∃ e, respond .first U.beside (.close h) c =
              (.error (.check e), report .first U.beside e c) ∧ e.handle? = some h := by
  have hstart : d.table.WellFormed := by
    rw [htable]
    exact HandleTable.withCapacity_wellFormed tag closedQueueMax capacity
  have hplain := SharedOp.run_recorded (U := U) ops (d, u, [])
  have hdeeds := SharedOp.runDeeds_recorded (U := U) ops (d, u, [])
  have hrun := fun (k : Handle) (hk : k ≠ .null) => Reports.run (U := U) (c := (d, u, [])) hk hstart ops
  generalize SharedOp.run U.recorded (d, u, []) (ops.map SharedOp.recorded) = c at hplain hrun
  obtain ⟨d', u', calls⟩ := c
  refine ⟨hplain, fun k hk => ?_, fun h k hh hres => ?_⟩
  · obtain ⟨-, howed, -⟩ := hrun k hk
    have hnone : owed k (d, u, []) = 0 := by
      rw [owed, htable, HandleTable.wrapped, HandleTable.bindings_withCapacity]
      rfl
    rw [hnone, ← hdeeds] at howed
    simp only [owed, Deed.balance, along] at howed
    omega
  · have hd' : d'.table.WellFormed := (hrun ⟨1⟩ (by decide)).1
    obtain ⟨t, hclose, ht, hunbound⟩ := respond_close (U := U) hd' hh hres u'
    refine ⟨t, hclose, fun ops' hissued => ?_⟩
    let c : Recorded τ := ({ d' with table := t }, (U (.close k) u').2, [])
    have hplain' := SharedOp.run_recorded (U := U) ops' c
    rw [show ({ d' with table := t }, (U (.close k) u').2) = along Prod.fst c from rfl] at hissued ⊢
    rw [SharedOp.runIssued_recorded] at hissued
    obtain ⟨ht', -, hbound⟩ := Reports.run (U := U) (k := ⟨1⟩) (c := c) (by decide) ht ops'
    rw [hplain']
    refine respond_close_unbound ht' hh (fun b hb heq => ?_) _
    rcases hbound b hb with hb | hb
    · exact hunbound b hb heq
    · exact hissued (heq ▸ hb)

/-- A universal context that has one object, and closes it for nobody. A duplicate is closed twice,
whereupon the hook tries a close of its own, and a made-up handle comes and goes by hand. The open
handle is then closed, in vain, and cannot be closed again. -/
theorem closes_conserved_without_success :
    let U : Universal Unit := fun r u =>
      match r with
      | .close _ => (.error (.call 9 "busy"), u)
      | _ => (.ok (.handle ⟨1⟩), u)
    let d : DebugContext := { (default : DebugContext) with
      table := .withCapacity 3 8 8, hook := some [.universalClose ⟨1⟩] }
    let h : Handle := ⟨0x30000001⟩
    let copy : Handle := ⟨0x30000002⟩
    let ops : List (SharedOp Unit) := [.own (.call (.fromInt 5)), .own (.call (.dup h)),
      .own (.call (.close copy)), .own (.call (.close copy)), .openHandle ⟨99⟩,
      .own (.closeHandle ⟨0x30000003⟩)]
    let (d', _, calls) := SharedOp.run U.recorded (d, (), []) (ops.map SharedOp.recorded)
    d.table = .withCapacity 3 8 8 ∧ received calls = [⟨1⟩, ⟨1⟩] ∧ closes calls = [⟨1⟩, ⟨1⟩] ∧
      d'.table.wrapped.count ⟨1⟩ = 1 ∧ d'.table.wrapped.count ⟨99⟩ = 0 ∧
      ∃ t, respond .first U.beside (.close h) (d', ()) =
          (.error (.call 9 "busy"), { d' with table := t }, ()) ∧
        ∃ e, (respond .first U.beside (.close h) ({ d' with table := t }, ())).1 =
          .error (.check e) ∧ e.handle? = some h := by
  intro U d h copy ops
  have hreceived : received (SharedOp.run U.recorded (d, (), [])
      (ops.map SharedOp.recorded)).2.2 = [⟨1⟩, ⟨1⟩] := by decide +kernel
  have hcloses : closes (SharedOp.run U.recorded (d, (), [])
      (ops.map SharedOp.recorded)).2.2 = [⟨1⟩, ⟨1⟩] := by decide +kernel
  have hopened : Deed.opened (SharedOp.runDeeds U (d, ()) ops) = [⟨99⟩] := by decide +kernel
  have hout : Deed.handedOut (SharedOp.runDeeds U (d, ()) ops) = [⟨99⟩] := by decide +kernel
  have hdirect : Deed.closedDirectly (SharedOp.runDeeds U (d, ()) ops) = [⟨1⟩] := by
    decide +kernel
  have hopen : ((SharedOp.run U.recorded (d, (), [])
      (ops.map SharedOp.recorded)).1.table.resolve h).toOption = some ⟨1⟩ := by decide +kernel
  -- The rest follows from these, and what the operations are does not matter.
  clear_value ops
  have hconserved := closes_conserved U d 3 8 8 rfl () ops
  generalize SharedOp.run U.recorded (d, (), []) (ops.map SharedOp.recorded) = c at *
  obtain ⟨d', _, calls⟩ := c
  obtain ⟨-, hcount, hretry⟩ := hconserved
  have hres : d'.table.resolve h = .ok ⟨1⟩ := by
    cases hr : d'.table.resolve h with
    | error e =>
      rw [hr] at hopen
      exact nomatch hopen
    | ok u =>
      rw [hr] at hopen
      exact congrArg Except.ok (Option.some.inj hopen)
  have hone := hcount ⟨1⟩ (by decide)
  have hother := hcount ⟨99⟩ (by decide)
  rw [hreceived, hcloses, hopened, hout, hdirect] at hone hother
  obtain ⟨t, hclose, hagain⟩ := hretry h ⟨1⟩ (by decide) hres
  obtain ⟨e, herror, he⟩ := hagain [] List.not_mem_nil
  refine ⟨rfl, hreceived, hcloses, ?_, ?_, t, hclose, e, congrArg Prod.fst herror, he⟩
  · simp at hone
    omega
  · simpa using hother.symm

end HandleGuard
