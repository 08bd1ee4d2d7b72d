import HandleGuard.Proofs.Context.Detached
import HandleGuard.Proofs.Context.Run
import HandleGuard.Proofs.Process.Run
import HandleGuard.Proofs.Table.Generations

/-!
# Contexts are isolated

A handle bears the tag of the context that issued it, and contexts have the tags 0 to 255 in turn.
So a context tells the handles of another one, made less than a full turn away, by their tag alone.
It refuses such a handle wherever it comes up, whatever became of it in the context that issued it,
and nothing is passed on (`contexts_isolated`).

* `HandleTable.fields?_of_issued`   what a table issues bears its tag
* `DebugContext.respond_refuses`    a call with a handle that the table refuses fails its check
* `Process.issued_of_answers`       what a context answers is among what its table issues
-/

namespace HandleGuard

namespace HandleTable

variable {t : HandleTable}

theorem new_wellFormed (tag closedQueueMax : Nat) : (new tag closedQueueMax).WellFormed :=
  withCapacity_wellFormed tag closedQueueMax Handle.maxSlots

/-- The handles of a table bear its tag, also when they are closed or given up. -/
theorem fields?_of_issued (ht : t.WellFormed) {ops : List TableOp} {p : Handle × Handle}
    (hp : p ∈ t.issued ops) : ∃ f, p.1.fields? = some f ∧ f.tag = t.tag := by
  induction ops generalizing t with
  | nil => exact absurd hp List.not_mem_nil
  | cons op ops ih =>
    rcases List.mem_append.mp hp with hp | hp
    · obtain ⟨rfl, hok, hh⟩ := mem_issuedBy hp
      obtain ⟨-, i, rs, t₁, htrace, hs, -⟩ :=
        openHandle_performedBy ht (ne_null_of_openHandle hh hok) hok
      -- The handle is that of a slot of the table, which the step has just filled.
      obtain ⟨-, g, hg, -, hslots⟩ := hs.issued_slots
      have hslot := (hs.wellFormed (htrace.wellFormed ht)).slot_lt (by rw [hslots, if_pos rfl])
      rw [hg, (htrace.wellFormed ht).fields?_handleAt hslot]
      exact ⟨_, rfl, htrace.frame.1⟩
    · obtain ⟨f, hf, htag⟩ := ih (perform_wellFormed ht op) hp
      exact ⟨f, hf, htag.trans (run_frame ht [op]).1⟩

/-- A handle with another tag is refused. -/
theorem refuses_foreign {h : Handle} {f : Handle.Fields} (hh : h ≠ .null)
    (hf : h.fields? = some f) (htag : f.tag ≠ t.tag) :
    t.resolve h = .error (.invalidHandle h .foreignContext) ∧
    t.close h = (.error (.invalidHandle h .foreignContext), t) := by
  have hlookup : t.lookup h = .error .foreignContext := by
    rw [lookup, hf]
    exact if_pos htag
  constructor
  · rw [resolve, if_neg (Handle.not_isNull hh), hlookup]
  · rw [close, if_neg (Handle.not_isNull hh), hlookup]

end HandleTable

/-! ### Refusals -/

namespace DebugContext

variable {σ : Type} {focus : Focus σ} {d : DebugContext} {s : σ} (hd : focus.On d s)
  {universal : Universal σ} {onFail : DebugError → σ → σ}
  {op : HandleTable → Except DebugError Handle × HandleTable} {h u : Handle} {e : DebugError}

include hd

/-- A check that fails and leaves the table as it is. -/
theorem check_fails (hop : op d.table = (.error e, d.table)) :
    check focus onFail op s = (.error e, onFail e s) := by
  obtain ⟨put, rfl, hupdate⟩ := hd
  rw [check, hupdate, onTable, hop]

theorem checkResolve_fails (hres : d.table.resolve h = .error e) :
    checkResolve focus onFail h s = (.error e, onFail e s) :=
  check_fails hd (by rw [hres])

theorem checkResolve_passes (hres : d.table.resolve h = .ok u) :
    checkResolve focus onFail h s = (.ok u, s) := by
  obtain ⟨put, rfl, hupdate⟩ := hd
  rw [checkResolve, check, hupdate, onTable, hres]

/-- Handles are resolved from left to right, up to the first that is refused. -/
private theorem resolveAll_refuses {hs : List Handle} (hh : h ∈ hs)
    (hres : d.table.resolve h = .error e) :
    ∃ e', resolveAll focus universal hs s = (.error e', report focus universal e' s) ∧
      ∀ pre post, hs = pre ++ h :: post → (∀ k ∈ pre, ∃ u, d.table.resolve k = .ok u) →
        e' = e := by
  induction hs with
  | nil => exact absurd hh List.not_mem_nil
  | cons k hs ih =>
    rw [resolveAll, resolve]
    cases hk : d.table.resolve k with
    | error e' =>
      rw [checkResolve_fails hd hk]
      refine ⟨e', rfl, fun pre post hsplit hpre => ?_⟩
      rcases List.cons_eq_append_iff.mp hsplit with ⟨rfl, hcons⟩ | ⟨pre', rfl, -⟩
      · cases hcons
        exact Except.error.inj (hk.symm.trans hres)
      · obtain ⟨u, hu⟩ := hpre k List.mem_cons_self
        exact absurd (hk.symm.trans hu) (by simp)
    | ok u =>
      have hne : h ≠ k := by
        rintro rfl
        exact absurd (hk.symm.trans hres) (by simp)
      obtain ⟨e', hrest, hfirst⟩ := ih ((List.mem_cons.mp hh).resolve_left hne)
      rw [checkResolve_passes hd hk]
      dsimp only
      rw [hrest]
      refine ⟨e', rfl, fun pre post hsplit hpre => ?_⟩
      rcases List.cons_eq_append_iff.mp hsplit with ⟨rfl, hcons⟩ | ⟨pre', rfl, hrest⟩
      · exact absurd (List.cons.inj hcons).1 hne
      · exact hfirst pre' post hrest fun k' hk' => hpre k' (List.mem_cons_of_mem k hk')

/-- A call with a handle that the table refuses fails its check, and is not passed on. It fails
because of the first such handle. -/
theorem respond_refuses (hres : d.table.resolve h = .error e)
    (hclose : d.table.close h = (.error e, d.table)) {r : Request} (hr : h ∈ r.handles) :
    ∃ e', respond focus universal r s = (.error (.check e'), report focus universal e' s) ∧
      ∀ pre post, r.handles = pre ++ h :: post → (∀ k ∈ pre, ∃ u, d.table.resolve k = .ok u) →
        e' = e := by
  cases r with
  | close k =>
    obtain rfl := List.mem_singleton.mp hr
    refine ⟨e, ?_, fun _ _ _ _ => rfl⟩
    rw [respond, closeThrough, checkClose, check_fails hd hclose]
  | _ =>
    obtain ⟨e', hrefused, hfirst⟩ := resolveAll_refuses hd hr hres
    simp only [respond]
    exact ⟨e', by rw [hrefused], hfirst⟩

/-- A failed check goes to the log first, and then the hook acts. -/
private theorem report_on (e : DebugError) :
    report focus universal e s =
      (d.hook.getD []).foldl (performNoted focus universal) (note focus e s) := by
  obtain ⟨put, rfl, hupdate⟩ := hd
  have hnote : note focus e (put d) = put (d.record e) := by rw [note, Focus.modify, hupdate]
  rw [report, hnote, Focus.get, hupdate, record_hook]

end DebugContext

namespace Forest

variable {s : Forest} {b : Nat} {B : AttachedContext}

/-- The forest after context `b` put the failed check `e` in its log. -/
def logged (s : Forest) (b : Nat) (e : DebugError) : Forest :=
  DebugContext.note (context b) e s

theorem context_on (hB : s.contexts[b]? = some B) : (context b).On B.context s :=
  ⟨s.putContext b, putContext_self hB,
    fun f d => update_putContext (Array.getElem?_eq_some_iff.mp hB).1 d f⟩

/-- Logging changes the log of the context and the notes of its hook. -/
theorem logged_frame (hB : s.contexts[b]? = some B) (e : DebugError) :
    (s.logged b e).stores = s.stores ∧
    (∀ i, i ≠ b → (s.logged b e).contexts[i]? = s.contexts[i]?) ∧
    (s.logged b e).contexts[b]? = some { B with context := B.context.record e } ∧
    (B.context.record e).table = B.context.table := by
  have hlogged : s.logged b e = s.putContext b (B.context.record e) := by
    have hmodify :=
      modify_putContext (Array.getElem?_eq_some_iff.mp hB).1 B.context (·.record e)
    rwa [putContext_self hB] at hmodify
  rw [hlogged]
  refine ⟨rfl, fun i hi => getElem?_putContext_ne s _ hi.symm, ?_, B.context.record_table e⟩
  rw [getElem?_putContext hB, if_pos rfl]

end Forest

/-! ### What contexts answer -/

/-- A handle that a call is answered with is issued by the table for the one that came back. -/
theorem DebugContext.openHandle_of_respond {τ : Type} {U : Universal τ} {d : DebugContext} {u : τ}
    {r : Request} {h : Handle} (hr : ∀ k, r ≠ .close k)
    (hanswer : (respond .first U.beside r (d, u)).1 = .ok (.handle h)) :
    ∃ uh, (d.table.openHandle uh).1 = .ok h := by
  rw [respond_first U.beside hr] at hanswer
  cases hres : r.handles.mapM d.table.resolve with
  | error e =>
    rw [hres] at hanswer
    cases hanswer
  | ok us =>
    simp only [hres] at hanswer
    obtain ⟨uh, u', -, hwrap⟩ | ⟨a, u', -, hother, hforward⟩ :=
      forward_first_cases U (r.withHandles us) d u
    · refine ⟨uh, ?_⟩
      rw [hwrap, fst_wrap] at hanswer
      cases hopen : (d.table.openHandle uh).1 with
      | ok k =>
        rw [hopen] at hanswer
        cases hanswer
        rfl
      | error e =>
        rw [hopen] at hanswer
        cases hanswer
    · rw [hforward] at hanswer
      exact absurd hanswer (hother h)

namespace HandleTable

/-- A handle that opening answers is issued by the run that ends with it. -/
theorem mem_issued_of_openHandle {t : HandleTable} {ops : List TableOp} {h u : Handle}
    (hh : h ≠ .null) (hopen : ((t.run ops).openHandle u).1 = .ok h) :
    (h, u) ∈ t.issued (ops ++ [.openHandle u]) := by
  rw [issued, collect_append]
  refine List.mem_append_right _ (List.mem_append_left _ ?_)
  rw [issuedBy, hopen]
  dsimp only
  rw [if_neg (Handle.not_isNull hh)]
  exact List.mem_singleton_self _

end HandleTable

/-- Debug context `a` answers the handle `h`: to a call other than `close`, which brings none, or
when it is told to trust a universal handle. -/
inductive Forest.AnswersHandle (s : Forest) (a : Nat) (h : Handle) : Prop where
  | call {r : Request} (hr : ∀ k, r ≠ .close k)
    (hanswer : (Forest.respond (.debug a) r s).1 = .ok (.handle h))
  | openHandle {uh : Handle} (hanswer : (Forest.openHandle a uh s).1 = .ok h)

/-- What a context answers is among the handles that its table issues. The forest need not be at
rest: calls and hooks that are under way leave it grown (`Forest.Grown.evolve`). -/
theorem Forest.Grown.issued_of_answers {s : Forest} (hs : s.Grown) {a : Nat} {A : AttachedContext}
    {h : Handle} (hA : s.contexts[a]? = some A) (hanswers : s.AnswersHandle a h) (hh : h ≠ .null) :
    ∃ history uh, (h, uh) ∈ (HandleTable.new a A.context.config.closedQueueMax).issued history := by
  have hplaced := hs.placed hA
  obtain ⟨uh, hopen⟩ : ∃ uh, (A.context.table.openHandle uh).1 = .ok h := by
    cases hanswers with
    | call hr hanswer =>
      rw [Forest.respond_detached hA hplaced.height] at hanswer
      exact DebugContext.openHandle_of_respond hr hanswer
    | openHandle hanswer =>
      exact ⟨_, (DebugContext.fst_check (Forest.context_on hA) _ _).symm.trans hanswer⟩
  obtain ⟨history, htable⟩ := hplaced.table
  rw [htable] at hopen
  exact ⟨_, uh, HandleTable.mem_issued_of_openHandle hh hopen⟩

/-- A handle that a context once answered stays among those that its table issues, whatever the
process does later. -/
theorem Process.issued_of_answers (ops later : List ProcessOp) {a : Nat} {A : AttachedContext}
    {h : Handle} (hA : (Process.empty.run ops).forest.contexts[a]? = some A)
    (hanswers : (Process.empty.run ops).forest.AnswersHandle a h) (hh : h ≠ .null) :
    ∃ A', (Process.empty.run (ops ++ later)).forest.contexts[a]? = some A' ∧ ∃ history uh,
      (h, uh) ∈ (HandleTable.new a A'.context.config.closedQueueMax).issued history := by
  have hissued := (Process.run_grown Process.empty_grown ops).issued_of_answers hA hanswers hh
  obtain ⟨A', hA', history, log, hook, hookLog, hcontext⟩ :=
    (Process.empty.run ops).run_context_stays later hA
  rw [Process.run_append]
  -- The table of a context changes, and its settings do not.
  exact ⟨A', hA', hcontext ▸ hissued⟩

/-- Contexts are isolated. Take two debug contexts of a process, made `a`-th and `b`-th, where `a`
and `b` do not differ by a multiple of 256. Whatever the process did, the table of the first went
through some history; and a handle that such a table issues in any history at all, as is each that
the first context answers (`Process.issued_of_answers`), is refused by the second context, as
foreign. The same goes for every operation of the second context that is given the handle: it fails
its check, with the handle if no handle before it fails, and nothing is passed on. The failure goes
to the log of the second context, and then its hook acts, if it has one. The log apart, everything
else is as it was. -/
theorem contexts_isolated (ops : List ProcessOp) {a b : Nat} {A B : AttachedContext}
    (hA : (Process.empty.run ops).forest.contexts[a]? = some A)
    (hB : (Process.empty.run ops).forest.contexts[b]? = some B) (hab : a % 256 ≠ b % 256) :
    let s := (Process.empty.run ops).forest
    let unused := HandleTable.new a A.context.config.closedQueueMax
    let hooked (universal : Universal Forest) (e : DebugError) : Forest :=
      (B.context.hook.getD []).foldl (DebugContext.performNoted (Forest.context b) universal)
        (s.logged b e)
    (∃ history, A.context.table = unused.run history) ∧
    (∀ history, ∀ p ∈ unused.issued history,
      let foreign : DebugError := .invalidHandle p.1 .foreignContext
      B.context.table.resolve p.1 = .error foreign ∧
      Forest.resolve b p.1 s = (.error foreign, hooked (Forest.universalOf b) foreign) ∧
      Forest.closeHandle b p.1 s = (.error foreign, hooked (Forest.universalOf b) foreign) ∧
      ∀ r : Request, p.1 ∈ r.handles → ∃ e,
        Forest.respond (.debug b) r s =
          (.error (.check e), hooked (Forest.respond B.universal) e) ∧
        ∀ pre post, r.handles = pre ++ p.1 :: post →
          (∀ k ∈ pre, ∃ u, B.context.table.resolve k = .ok u) → e = foreign) ∧
    ∀ e, (s.logged b e).stores = s.stores ∧
      (∀ i, i ≠ b → (s.logged b e).contexts[i]? = s.contexts[i]?) ∧
      (s.logged b e).contexts[b]? = some { B with context := B.context.record e } ∧
      (B.context.record e).table = B.context.table := by
  intro s unused hooked
  have hgrown := Process.run_grown Process.empty_grown ops
  have hon := Forest.context_on hB
  have hhooked (universal : Universal Forest) (e : DebugError) :
      DebugContext.report (Forest.context b) universal e s = hooked universal e :=
    DebugContext.report_on hon e
  obtain ⟨history, htable⟩ := (hgrown.placed hA).table
  refine ⟨⟨history, htable⟩, fun history p hp => ?_, Forest.logged_frame hB⟩
  -- The handle bears the tag of the first context, and that is not the tag of the second one.
  have hunused := HandleTable.new_wellFormed a A.context.config.closedQueueMax
  obtain ⟨f, hf, htag⟩ := HandleTable.fields?_of_issued hunused hp
  have hother : f.tag ≠ B.context.table.tag := by
    obtain ⟨historyB, htableB⟩ := (hgrown.placed hB).table
    rw [htag, htableB, (HandleTable.run_frame (HandleTable.new_wellFormed _ _) _).1]
    exact hab
  obtain ⟨hres, hclose⟩ :=
    HandleTable.refuses_foreign (HandleTable.issued_fst_ne_null hunused hp) hf hother
  refine ⟨hres, ?_, ?_, fun r hr => ?_⟩
  · rw [Forest.resolve, DebugContext.resolve, DebugContext.checkResolve_fails hon hres, hhooked]
  · rw [Forest.closeHandle, DebugContext.closeHandle, DebugContext.checkClose,
      DebugContext.check_fails hon hclose, hhooked]
  · obtain ⟨e, hrefused, hfirst⟩ := DebugContext.respond_refuses hon hres hclose hr
    refine ⟨e, ?_, hfirst⟩
    simp only [Forest.respond]
    rw [hB]
    dsimp only
    rw [if_pos (hgrown.placed hB).height, hrefused, hhooked]

/-- Two contexts before one store. The second one has a handle of its own, and refuses that of the
first one beside it. -/
theorem contexts_isolated_two_contexts :
    let ops : List ProcessOp := [.newStore "u", .newContext (.store 0) .default,
      .newContext (.store 0) .default, .openHandle 0 ⟨5⟩, .openHandle 1 ⟨7⟩]
    let s := (Process.empty.run ops).forest
    let h : Handle := ⟨0x1⟩
    let own : Handle := ⟨0x10000001⟩
    ∃ A B, s.contexts[0]? = some A ∧ s.contexts[1]? = some B ∧ 0 % 256 ≠ 1 % 256 ∧
      A.context.table.resolve h = .ok ⟨5⟩ ∧ B.context.table.resolve own = .ok ⟨7⟩ ∧
      (Forest.resolve 1 h s).1 = .error (.invalidHandle h .foreignContext) ∧
      (Forest.respond (.debug 1) (.same own h) s).1 =
        .error (.check (.invalidHandle h .foreignContext)) := by
  intro ops s h own
  have hfirst : (s.contexts[0]?.map fun A =>
      (A.context.table.resolve h, A.context.config.closedQueueMax)) = some (.ok ⟨5⟩, 1024) := by
    decide +kernel
  have hsecond : (s.contexts[1]?.map fun B => B.context.table.resolve own) = some (.ok ⟨7⟩) := by
    decide +kernel
  obtain ⟨A, hA, hopen⟩ := Option.map_eq_some_iff.mp hfirst
  obtain ⟨B, hB, hown⟩ := Option.map_eq_some_iff.mp hsecond
  obtain ⟨hopen, hmax⟩ := Prod.mk.inj hopen
  have hissued : (h, ⟨5⟩) ∈ (HandleTable.new 0 A.context.config.closedQueueMax).issued
      [.openHandle ⟨5⟩] := by
    rw [hmax]
    decide +kernel
  obtain ⟨-, hforeign, -⟩ := contexts_isolated ops hA hB (by decide)
  obtain ⟨-, hresolve, -, hcall⟩ := hforeign _ _ hissued
  obtain ⟨e, hrespond, hreason⟩ := hcall (.same own h) (by decide)
  have he := hreason [own] [] rfl fun k hk => ⟨⟨7⟩, List.mem_singleton.mp hk ▸ hown⟩
  refine ⟨A, B, hA, hB, by decide, hopen, hown, ?_, ?_⟩
  · rw [hresolve]
  · rw [hrespond, he]

end HandleGuard
