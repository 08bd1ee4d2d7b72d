import HandleGuard.Proofs.Context.Run
import HandleGuard.Proofs.Store.References
import HandleGuard.Proofs.Table.Bindings

/-!
# The debug layer shields its universal context

A debug context that is alone on an integer store owes the store one reference for each open handle.
`Shielded` is the balance: it counts the universal handles that open handles wrap, together with
those that are under way between the table and the store, against the references of the store. Table
operations move a universal handle between the two, calls on the store change both sides alike, and
a hook may act while handles are under way. Only `closeHandle` lets a reference go astray.

A hook is a list of actions, and a run may set another one before each operation. This stands for
all hooks that only resolve and close: an action that fails changes neither the table nor the store,
so a hook that answers its own failures with more actions, or chooses its actions by what it sees,
does in each operation what some list does.

* `Shielded.call`, `Shielded.apply`   what a call and what any operation keeps
* `universal_shielded`                what follows for all runs
-/

namespace HandleGuard

/-- An integer store with a record of its calls. -/
abbrev RecordedStore := ObjectStore × List (Request × Except CallError Reply)

/-- The integer store that keeps a record. -/
abbrev recordedStore : Universal RecordedStore := Universal.recorded ObjectStore.respond

/-- A call on the store that was not refused for a handle, unless it was given null. -/
def WellAnswered (p : Request × Except CallError Reply) : Prop :=
  ((∀ h ∈ p.1.handles, h ≠ .null) → ¬ObjectStore.RefusesArgument p.2) ∧
    ∀ u, p.1 = .close u → p.2 = .ok .closed

/-- A hook whose actions only resolve and close debug handles. -/
def MildHook (hook : Option (List HookAction)) : Prop :=
  ∀ a ∈ hook.getD [], a.usesHandle = true

/-- A hook that never uses `closeHandle`. -/
def CleanHook (hook : Option (List HookAction)) : Prop :=
  ∀ a ∈ hook.getD [], a.isCloseHandle = false

/-- An answer that is a failed check. -/
def IsCheckError (a : Except CallError Reply) : Prop := ∃ e, a = .error (.check e)

/-- The store has a reference for each universal handle that is wrapped or under way, and if `exact`
holds it has no others. -/
structure Shielded (exact : Prop) (hook : Option (List HookAction)) (underWay : List Handle)
    (c : DebugContext × RecordedStore) : Prop where
  table : c.1.table.WellFormed
  store : c.2.1.WellFormed
  covers : c.2.1.Covers exact (c.1.table.wrapped ++ underWay)
  answered : ∀ p ∈ c.2.2, WellAnswered p
  hook_eq : c.1.hook = hook

namespace Shielded

open DebugContext

variable {x y : Prop} {hook : Option (List HookAction)} {l l' : List Handle}
  {c : DebugContext × RecordedStore} {d : DebugContext} {s : RecordedStore} {u : Handle}

theorem mono (hc : Shielded x hook l c) (hxy : y → x) : Shielded y hook l c :=
  { hc with covers := hc.covers.mono hxy }

/-- Only the table and the hook of the context matter. -/
theorem congr (hc : Shielded x hook l (d, s)) {d' : DebugContext} (htable : d'.table = d.table)
    (hhook : d'.hook = d.hook) : Shielded x hook l (d', s) where
  table := by rw [htable]; exact hc.table
  store := hc.store
  covers := by rw [htable]; exact hc.covers
  answered := hc.answered
  hook_eq := hhook.trans hc.hook_eq

/-- The table may exchange handles with what is under way. -/
theorem exchange (hc : Shielded x hook l (d, s)) {t : HandleTable} (ht : t.WellFormed)
    (hperm : (t.wrapped ++ l').Perm (d.table.wrapped ++ l)) :
    Shielded x hook l' ({ d with table := t }, s) :=
  { hc with table := ht, covers := hc.covers.perm hperm }

/-- A handle that is no longer under way leaves its reference astray. -/
theorem drop (hc : Shielded x hook (u :: l) c) : Shielded False hook l c :=
  { hc with covers := (hc.covers.perm List.perm_middle.symm).drop }

/-- A wrapped handle has an object. -/
theorem refs_pos (hc : Shielded x hook l c) (hu : u ∈ c.1.table.wrapped) : 0 < c.2.1.refs u :=
  hc.covers.refs_pos (HandleTable.wrapped_ne_null hc.table hu) (List.mem_append_left _ hu)

private theorem answered_append {calls : List (Request × Except CallError Reply)}
    (hcalls : ∀ p ∈ calls, WellAnswered p) {r : Request} {a : Except CallError Reply}
    (h : WellAnswered (r, a)) : ∀ p ∈ calls ++ [(r, a)], WellAnswered p := by
  intro p hp
  rcases List.mem_append.mp hp with hp | hp
  · exact hcalls p hp
  · rw [List.mem_singleton.mp hp]
    exact h

/-- Closing a handle under way takes it away on both sides, and cannot fail. -/
theorem universal_close (hc : Shielded x hook (u :: l) c) (hu : u ≠ .null) :
    ∃ c', recordedStore.beside (.close u) c = (.ok .closed, c') ∧ Shielded x hook l c' := by
  obtain ⟨d, s, calls⟩ := c
  have hcovers : s.Covers x (u :: (d.table.wrapped ++ l)) :=
    hc.covers.perm List.perm_middle.symm
  obtain ⟨s', hres, hs', hcovers', -⟩ := hcovers.close hc.store hu
  refine ⟨(d, s', calls ++ [(.close u, .ok .closed)]), ?_, hc.table, hs', hcovers',
    answered_append hc.answered ⟨fun _ => nofun, fun _ _ => rfl⟩, hc.hook_eq⟩
  simp only [Universal.beside, Universal.recorded, hres]

/-! ### Checked uses of handles -/

/-- What a failed check does: the context stays shielded, exactly so if `y` holds. -/
def FailsTo (x y : Prop) (hook : Option (List HookAction))
    (onFail : DebugError → DebugContext × RecordedStore → DebugContext × RecordedStore) : Prop :=
  ∀ e l c, Shielded x hook l c → Shielded y hook l (onFail e c)

variable {onFail : DebugError → DebugContext × RecordedStore → DebugContext × RecordedStore}

theorem note : FailsTo x x hook (DebugContext.note .first) := by
  intro e l c hc
  obtain ⟨d, s⟩ := c
  rw [note_first]
  exact hc.congr (record_table d e) (record_hook d e)

theorem checkResolve (hfail : FailsTo x y hook onFail) (hc : Shielded x hook l c) (h : Handle) :
    (∃ u, DebugContext.checkResolve .first onFail h c = (.ok u, c)) ∨
    (∃ e c', DebugContext.checkResolve .first onFail h c = (.error e, c') ∧
      Shielded y hook l c') := by
  obtain hres | ⟨e, hres⟩ := checkResolve_first onFail h c
  · exact .inl hres
  · exact .inr ⟨e, _, hres, hfail e l _ hc⟩

/-- Closing a debug handle leaves its universal handle under way. -/
theorem checkClose (hfail : FailsTo x y hook onFail) (hc : Shielded x hook l c) (h : Handle) :
    (∃ c', DebugContext.checkClose .first onFail h c = (.ok .null, c') ∧ Shielded x hook l c') ∨
    (∃ u c', DebugContext.checkClose .first onFail h c = (.ok u, c') ∧ u ≠ .null ∧
      Shielded x hook (u :: l) c') ∨
    (∃ e c', DebugContext.checkClose .first onFail h c = (.error e, c') ∧
      Shielded y hook l c') := by
  obtain ⟨d, s⟩ := c
  rw [DebugContext.checkClose, check_first]
  obtain ⟨-, hclose⟩ | ⟨u, t, hclose, -, hu, ht, -, hperm⟩ | ⟨e, hclose, -⟩ :=
    HandleTable.close_bindings hc.table h
  · rw [hclose]
    exact .inl ⟨_, rfl, hc⟩
  · rw [hclose]
    refine .inr (.inl ⟨u, _, rfl, hu, hc.exchange ht ?_⟩)
    exact (List.perm_middle).trans ((hperm.map Prod.snd).symm.append_right l)
  · rw [hclose]
    -- The table is as it was, and the report is up to `onFail`.
    exact .inr (.inr ⟨e, _, rfl, hfail e l _ hc⟩)

theorem closeThrough (hfail : FailsTo x y hook onFail) (hc : Shielded x hook l c) (h : Handle) :
    (∃ c', DebugContext.closeThrough .first recordedStore.beside onFail h c = (.ok .closed, c') ∧
      Shielded x hook l c') ∨
    (∃ e c', DebugContext.closeThrough .first recordedStore.beside onFail h c =
      (.error (.check e), c') ∧ Shielded y hook l c') := by
  rw [DebugContext.closeThrough]
  obtain ⟨c', hclose, hc'⟩ | ⟨u, c', hclose, hu, hc'⟩ | ⟨e, c', hclose, hc'⟩ :=
    checkClose hfail hc h
  · rw [hclose]
    exact .inl ⟨c', rfl, hc'⟩
  · have hnull : ¬u.isNull = true := Handle.not_isNull hu
    obtain ⟨c'', hres, hc''⟩ := hc'.universal_close hu
    refine .inl ⟨c'', ?_, hc''⟩
    simp only [hclose, if_neg hnull, hres]
  · rw [hclose]
    exact .inr ⟨e, c', rfl, hc'⟩

/-! ### Hooks -/

/-- An action of a mild hook keeps the balance, and unless it is `closeHandle` it keeps it exact. -/
theorem performNoted (hc : Shielded x hook l c) {a : HookAction} (ha : a.usesHandle = true) :
    Shielded (x ∧ a.isCloseHandle = false) hook l
      (DebugContext.performNoted .first recordedStore.beside c a) := by
  have hperform : Shielded (x ∧ a.isCloseHandle = false) hook l
      (perform .first recordedStore.beside a c).2 := by
    cases a with
    | resolve h =>
      simp only [perform]
      obtain ⟨u, hres⟩ | ⟨e, c', hres, hc'⟩ := checkResolve note hc h
      · rw [hres]
        exact hc.mono And.left
      · rw [hres]
        exact hc'.mono And.left
    | closeHandle h =>
      simp only [perform]
      obtain ⟨c', hclose, hc'⟩ | ⟨u, c', hclose, -, hc'⟩ | ⟨e, c', hclose, hc'⟩ :=
        checkClose note hc h
      · rw [hclose]
        exact hc'.mono And.left
      · rw [hclose]
        -- The universal handle is handed out with its reference, and nobody closes it.
        exact hc'.drop.mono fun h => Bool.noConfusion h.2
      · rw [hclose]
        exact hc'.mono And.left
    | close h =>
      simp only [perform]
      obtain ⟨c', hclose, hc'⟩ | ⟨e, c', hclose, hc'⟩ := closeThrough note hc h
      · rw [hclose]
        exact hc'.mono And.left
      · rw [hclose]
        exact hc'.mono And.left
    | openHandle h => cases ha
    | universalClose h => cases ha
  exact hperform.congr rfl rfl

private theorem foldl_performNoted {actions : List HookAction}
    (hmild : ∀ a ∈ actions, a.usesHandle = true) (hc : Shielded x hook l c) :
    Shielded (x ∧ ∀ a ∈ actions, a.isCloseHandle = false) hook l
      (actions.foldl (DebugContext.performNoted .first recordedStore.beside) c) := by
  -- Induction on the actions, for all conditions: each action adds its own to `x`.
  induction actions generalizing x c with
  | nil => exact hc.mono And.left
  | cons a actions ih =>
    have hstep := hc.performNoted (hmild a List.mem_cons_self)
    have hrest := ih (fun b hb => hmild b (List.mem_cons_of_mem a hb)) hstep
    refine hrest.mono fun h => ⟨⟨h.1, h.2 a List.mem_cons_self⟩, fun b hb => ?_⟩
    exact h.2 b (List.mem_cons_of_mem a hb)

/-- A mild hook keeps the balance, and keeps it exact if it never uses `closeHandle`. -/
theorem report (hmild : MildHook hook) :
    FailsTo x (x ∧ CleanHook hook) hook (DebugContext.report .first recordedStore.beside) := by
  intro e l c hc
  obtain ⟨d, s⟩ := c
  have hc' : Shielded x hook l (d.record e, s) := note e l (d, s) hc
  rw [report_first, hc'.hook_eq]
  exact hc'.foldl_performNoted hmild

/-! ### Calls -/

theorem not_refuses_check (e : DebugError) :
    ¬ObjectStore.RefusesArgument (.error (.check e)) := by
  intro ⟨text, heq⟩
  exact nomatch heq

/-- What an operation keeps: the balance, exactly so unless a check failed and the hook used
`closeHandle`. -/
def Keeps (x : Prop) (hook : Option (List HookAction)) (a : Except CallError Reply)
    (c : DebugContext × RecordedStore) : Prop :=
  Shielded (x ∧ (IsCheckError a → CleanHook hook)) hook [] c

theorem keeps_check {e : DebugError} (hc : Shielded (x ∧ CleanHook hook) hook [] c) :
    Keeps x hook (.error (.check e)) c :=
  hc.mono fun h => ⟨h.1, h.2 ⟨e, rfl⟩⟩

theorem keeps_other (hc : Shielded x hook [] c) (a : Except CallError Reply) : Keeps x hook a c :=
  hc.mono And.left

/-- Wrapping a handle under way moves it into the table. When no debug handle can be issued, the
handle is still under way after the hook, and closing it cannot fail. -/
theorem wrap (hmild : MildHook hook) (hc : Shielded x hook [u] c) (hu : u ≠ .null) :
    ∃ a c', DebugContext.wrap .first recordedStore.beside u c = (a, c') ∧
      ¬ObjectStore.RefusesArgument a ∧ Keeps x hook a c' := by
  obtain ⟨d, s⟩ := c
  rw [DebugContext.wrap, openHandle, checkOpen, check_first]
  obtain ⟨h, t, hopen, ht, -, hperm⟩ | ⟨hopen, -⟩ := HandleTable.openHandle_bindings hc.table hu
  · refine ⟨.ok (.handle h), _, by rw [hopen], ?_, keeps_other (hc.exchange ht ?_) _⟩
    · rintro ⟨text, heq⟩
      cases heq
    · rw [List.append_nil]
      exact (hperm.map Prod.snd).trans (List.perm_append_singleton u d.table.wrapped).symm
  · rw [hopen]
    have hc' := report hmild (.tableFull d.table.capacity) [u] (d, s) hc
    -- The hook may have closed any debug handle, but the one under way is not its to close.
    obtain ⟨c', hres, hc''⟩ := hc'.universal_close hu
    refine ⟨.error (.check (.tableFull d.table.capacity)), c', ?_, not_refuses_check _,
      keeps_check hc''⟩
    have hafter := congrArg Prod.snd hres
    exact Prod.ext rfl hafter

/-- Passing on a call whose handles are wrapped, or null. -/
theorem forward (hmild : MildHook hook) (hc : Shielded x hook [] c) {r : Request}
    (hclose : ∀ k, r ≠ .close k) (hargs : ∀ u ∈ r.handles, u ≠ .null → u ∈ c.1.table.wrapped) :
    ∃ a c', DebugContext.forward .first recordedStore.beside r c = (a, c') ∧
      ((∀ u ∈ r.handles, u ≠ .null) → ¬ObjectStore.RefusesArgument a) ∧ Keeps x hook a c' := by
  obtain ⟨d, s, calls⟩ := c
  rw [DebugContext.forward]
  obtain ⟨-, u, s', hres, hu, hs', hrefs⟩ | ⟨u, -, hr, -⟩ | ⟨a, hres, ha, hrefuses⟩ :=
    ObjectStore.respond_refs hc.store r
  · have hcovers : s'.Covers x (u :: (d.table.wrapped ++ [])) := by
      refine hc.covers.add ?_ hrefs
      rw [List.append_nil]
      exact Nat.lt_trans (HandleTable.length_wrapped_lt hc.table) ObjectStore.slotLimit_lt_maxRefs
    have hmade : ¬ObjectStore.RefusesArgument (.ok (.handle u)) := by
      rintro ⟨text, heq⟩
      cases heq
    have hunder : Shielded x hook [u] (d, s', calls ++ [(r, .ok (.handle u))]) :=
      ⟨hc.table, hs', hcovers.perm List.perm_middle, answered_append hc.answered
        ⟨fun _ => hmade, fun k hk => absurd hk (hclose k)⟩, hc.hook_eq⟩
    obtain ⟨a, c', hwrap, ha, hc'⟩ := wrap hmild hunder hu
    refine ⟨a, c', ?_, fun _ => ha, hc'⟩
    simp only [Universal.beside, Universal.recorded, hres]
    exact hwrap
  · exact absurd hr (hclose u)
  · have hfine : (∀ u ∈ r.handles, u ≠ .null) → ¬ObjectStore.RefusesArgument a := fun hnull =>
      (hrefuses fun u hu => hc.refs_pos (hargs u hu (hnull u hu))).1
    have hafter : Shielded x hook [] (d, s.counted, calls ++ [(r, a)]) :=
      ⟨hc.table, hc.store.counted, hc.covers.refs_congr (ObjectStore.refs_counted s),
        answered_append hc.answered ⟨hfine, fun k hk => absurd hk (hclose k)⟩, hc.hook_eq⟩
    refine ⟨a, _, ?_, hfine, keeps_other hafter a⟩
    simp only [Universal.beside, Universal.recorded, hres]

/-- Any call on the debug context keeps the balance. -/
theorem call (hmild : MildHook hook) (hc : Shielded x hook [] c) (r : Request) :
    ∃ a c', respond .first recordedStore.beside r c = (a, c') ∧
      ((∀ h ∈ r.handles, h ≠ .null) → ¬ObjectStore.RefusesArgument a) ∧ Keeps x hook a c' := by
  by_cases hclose : ∃ k, r = .close k
  · obtain ⟨k, rfl⟩ := hclose
    obtain ⟨c', hres, hc'⟩ | ⟨e, c', hres, hc'⟩ := closeThrough (report hmild) hc k
    · exact ⟨_, c', hres, fun _ ⟨text, heq⟩ => (nomatch heq), keeps_other hc' _⟩
    · exact ⟨_, c', hres, fun _ => not_refuses_check e, keeps_check hc'⟩
  · obtain ⟨d, s⟩ := c
    have hne : ∀ k, r ≠ .close k := fun k hk => hclose ⟨k, hk⟩
    rw [respond_first _ hne]
    -- All handles resolve to wrapped ones before the call is passed on.
    cases hres : r.handles.mapM d.table.resolve with
    | error e =>
      refine ⟨_, _, rfl, fun _ => not_refuses_check e, keeps_check ?_⟩
      exact report hmild e [] (d, s) hc
    | ok us =>
      obtain ⟨hlen, hwrapped, hnull⟩ := HandleTable.resolve_mapM hc.table hres
      have hhandles := Request.handles_withHandles hlen
      obtain ⟨a, c', hforward, ha, hc'⟩ := forward hmild hc
        (withHandles_ne_close us hne) (by rw [hhandles]; exact hwrapped)
      exact ⟨a, c', hforward, fun h => ha (by rw [hhandles]; exact hnull h), hc'⟩

/-! ### Runs -/

private theorem cleanHook_of_not_any (h : (hook.getD []).any HookAction.isCloseHandle = false) :
    CleanHook hook := by
  intro a ha
  rw [List.any_eq_false] at h
  exact Bool.eq_false_iff.mpr (h a ha)

/-- Any operation keeps the balance, and keeps it exact if it does not use `closeHandle`. -/
theorem apply (hmild : MildHook hook) (hc : Shielded x hook [] c) (op : ContextOp)
    (hop : ∀ hook', op = .setHook hook' → MildHook hook') :
    ∃ hook', MildHook hook' ∧ Shielded (x ∧ op.usesCloseHandle recordedStore c = false) hook' []
      (op.apply recordedStore c) := by
  cases op with
  | call r =>
    obtain ⟨a, c', hres, -, hkeeps⟩ := hc.call hmild r
    refine ⟨hook, hmild, ?_⟩
    simp only [ContextOp.apply, ContextOp.usesCloseHandle, ContextOp.failsCheck, hres, hc.hook_eq]
    refine hkeeps.mono fun h => ⟨h.1, ?_⟩
    rintro ⟨e, rfl⟩
    exact cleanHook_of_not_any h.2
  | resolve h =>
    refine ⟨hook, hmild, ?_⟩
    simp only [ContextOp.apply, ContextOp.usesCloseHandle, ContextOp.failsCheck,
      DebugContext.resolve, hc.hook_eq]
    obtain ⟨u, hres⟩ | ⟨e, c', hres, hc'⟩ := checkResolve (report hmild) hc h
    · rw [hres]
      exact hc.mono And.left
    · rw [hres]
      exact hc'.mono fun h => ⟨h.1, cleanHook_of_not_any h.2⟩
  | closeHandle h =>
    refine ⟨hook, hmild, ?_⟩
    simp only [ContextOp.apply, ContextOp.usesCloseHandle, DebugContext.closeHandle]
    obtain ⟨c', hclose, hc'⟩ | ⟨u, c', hclose, -, hc'⟩ | ⟨e, c', hclose, hc'⟩ :=
      checkClose (report hmild) hc h
    · rw [hclose]
      exact hc'.mono And.left
    · rw [hclose]
      exact hc'.drop.mono fun h => Bool.noConfusion h.2
    · rw [hclose]
      exact hc'.mono fun h => Bool.noConfusion h.2
  | setClosedQueueMax max =>
    obtain ⟨d, s⟩ := c
    obtain ⟨ht, -, hperm⟩ := HandleTable.setClosedQueueMax_bindings hc.table max
    exact ⟨hook, hmild, (hc.exchange ht ((hperm.map Prod.snd).append_right [])).mono And.left⟩
  | newGeneration =>
    obtain ⟨d, s⟩ := c
    obtain ⟨ht, hsame⟩ := HandleTable.newGeneration_bindings hc.table
    refine ⟨hook, hmild, (hc.exchange ht ?_).mono And.left⟩
    rw [HandleTable.wrapped, hsame]
    exact .refl _
  | setHook hook' =>
    exact ⟨hook', hop hook' rfl,
      { table := hc.table, store := hc.store, covers := hc.covers.mono And.left,
        answered := hc.answered, hook_eq := rfl }⟩

/-- A run keeps the balance, and keeps it exact if it does not use `closeHandle`. -/
theorem run (hmild : MildHook hook) (hc : Shielded x hook [] c) (ops : List ContextOp)
    (hops : ∀ hook', .setHook hook' ∈ ops → MildHook hook') :
    ∃ hook', MildHook hook' ∧ Shielded
      (x ∧ ContextOp.runUsesCloseHandle recordedStore c ops = false) hook' []
      (ContextOp.run recordedStore c ops) := by
  induction ops generalizing x hook c with
  | nil => exact ⟨hook, hmild, hc.mono And.left⟩
  | cons op ops ih =>
    obtain ⟨hook₁, hmild₁, hc₁⟩ :=
      hc.apply hmild op fun hook' h => hops hook' (h ▸ List.mem_cons_self)
    obtain ⟨hook₂, hmild₂, hc₂⟩ :=
      ih hmild₁ hc₁ fun hook' h => hops hook' (List.mem_cons_of_mem op h)
    refine ⟨hook₂, hmild₂, hc₂.mono fun h => ?_⟩
    simpa only [ContextOp.runUsesCloseHandle, Bool.or_eq_false_iff, ← and_assoc] using h

end Shielded

/-- Where the balance is exact and no handle is open, the store is empty. -/
theorem Shielded.liveObjects_eq_zero {hook : Option (List HookAction)}
    {c : DebugContext × RecordedStore} (hc : Shielded True hook [] c)
    (hopen : c.1.table.openCount = 0) : c.2.1.liveObjects = 0 := by
  have hnone : c.1.table.wrapped = [] := by
    rw [HandleTable.wrapped, List.map_eq_nil_iff, ← List.length_eq_zero_iff,
      HandleTable.length_bindings hc.table, hopen]
  have hcovers := hc.covers
  rw [hnone] at hcovers
  exact hcovers.liveObjects_eq_zero hc.store

/-- The debug layer shields its universal context. After any run of operations on a debug context
that is alone on a new integer store, with hooks that only resolve and close, every open handle
wraps an object with a reference for each open handle that wraps it. No call that reached the store
was refused for a handle other than null, and each close that reached it succeeded. While
`closeHandle` is not used there are no other references, their numbers stay below the bound, and
without open handles there are no objects. -/
theorem universal_shielded (d : DebugContext) (tag closedQueueMax capacity : Nat)
    (htable : d.table = .withCapacity tag closedQueueMax capacity)
    (hhook : ∀ a ∈ d.hook.getD [], a.usesHandle = true) (ops : List ContextOp)
    (hops : ∀ hook, .setHook hook ∈ ops → ∀ a ∈ hook.getD [], a.usesHandle = true) :
    let U : Universal ObjectStore := ObjectStore.respond
    let (d', s, calls) := ContextOp.run U.recorded (d, .empty, []) ops
    let t := d'.table
    ContextOp.run U (d, .empty) ops = (d', s) ∧
    (∀ u ∈ t.wrapped, ∃ o, s.object? u = some o ∧ t.wrapped.count u ≤ o.refs) ∧
    (∀ r a, (r, a) ∈ calls → (∀ u ∈ r.handles, u ≠ .null) → ¬ObjectStore.RefusesArgument a) ∧
    (∀ u a, (.close u, a) ∈ calls → a = .ok .closed) ∧
    (∀ r : Request, (∀ h ∈ r.handles, h ≠ .null) →
      ¬ObjectStore.RefusesArgument (DebugContext.respond .first U.beside r (d', s)).1) ∧
    (ContextOp.runUsesCloseHandle U (d, .empty) ops = false →
      (∀ u o, s.object? u = some o →
        o.refs = t.wrapped.count u ∧ o.refs < ObjectStore.maxRefs) ∧
      (t.openCount = 0 → s.liveObjects = 0)) := by
  have hinit : Shielded True d.hook [] (d, .empty, []) := by
    refine ⟨?_, ObjectStore.empty_wellFormed, ?_, nofun, rfl⟩
    · rw [htable]
      exact HandleTable.withCapacity_wellFormed tag closedQueueMax capacity
    · rw [htable]
      exact ObjectStore.Covers.empty
  obtain ⟨hook, hmild, hc⟩ := hinit.run hhook ops hops
  have hagree := DebugContext.agree_recorded ObjectStore.respond
  have hplain := DebugContext.run_recorded ObjectStore.respond d .empty ops
  have huses := DebugContext.runUsesCloseHandle_along hagree ops (d, .empty, [])
  intro U
  generalize ContextOp.run recordedStore (d, .empty, []) ops = c at hc hplain
  obtain ⟨d', s, calls⟩ := c
  refine ⟨hplain, ?_, fun r a hcall => (hc.answered (r, a) hcall).1,
    fun u a hcall => (hc.answered (.close u, a) hcall).2 u rfl, ?_, ?_⟩
  · intro u hu
    obtain ⟨o, ho⟩ := (ObjectStore.refs_pos_iff hc.store).mp (hc.refs_pos hu)
    have hle := hc.covers.count_le u (HandleTable.wrapped_ne_null hc.table hu)
    rw [List.append_nil, ObjectStore.refs_eq_of_object? ho] at hle
    exact ⟨o, ho, hle⟩
  · intro r hr
    obtain ⟨a, c', hres, ha, -⟩ := hc.call hmild r
    have hsame := DebugContext.respond_along hagree r (d', s, calls)
    rw [hres] at hsame
    rw [show (d', s) = DebugContext.along Prod.fst (d', s, calls) from rfl, hsame]
    exact ha hr
  · intro hclean
    have hexact := hc.mono fun _ : True => ⟨trivial, huses.symm.trans hclean⟩
    refine ⟨fun u o ho => ?_, hexact.liveObjects_eq_zero⟩
    have hu := ObjectStore.ne_null_of_object? hc.store ho
    have heq := hexact.covers.count_eq trivial u hu
    have hlt := hexact.covers.refs_lt (u := u) ?_ hu
    · rw [List.append_nil] at heq
      rw [ObjectStore.refs_eq_of_object? ho] at heq hlt
      exact ⟨heq.symm, hlt⟩
    · rw [List.append_nil]
      exact Nat.lt_trans (HandleTable.length_wrapped_lt hc.table) ObjectStore.slotLimit_lt_maxRefs

/-- In a table with room for one handle a duplicate finds no place, and the hook closes the handle it
was made of while the duplicate is under way. Both references are given back. -/
theorem shielded_while_hook_closes :
    let h : Handle := ⟨0x30000001⟩
    let d : DebugContext := { (default : DebugContext) with
      table := .withCapacity 3 1 1, hook := some [.close h] }
    let ops : List ContextOp := [.call (.fromInt 5), .call (.dup h)]
    let (d', s, calls) := ContextOp.run recordedStore (d, .empty, []) ops
    (∀ a ∈ d.hook.getD [], a.usesHandle = true) ∧
      (∀ hook, .setHook hook ∈ ops → ∀ a ∈ hook.getD [], a.usesHandle = true) ∧
      calls.map Prod.fst = [.fromInt 5, .dup ⟨1⟩, .close ⟨1⟩, .close ⟨1⟩] ∧
      (∀ u a, (.close u, a) ∈ calls → a = .ok .closed) ∧
      d'.table.openCount = 0 ∧ s.liveObjects = 0 := by
  intro h d ops
  have hhook : ∀ a ∈ d.hook.getD [], a.usesHandle = true := by decide
  have hops : ∀ hook, .setHook hook ∈ ops → ∀ a ∈ hook.getD [], a.usesHandle = true := by
    intro hook hmem
    simp [ops] at hmem
  have hclean : ContextOp.runUsesCloseHandle ObjectStore.respond (d, .empty) ops = false := by
    decide +kernel
  have hcalls : (ContextOp.run recordedStore (d, .empty, []) ops).2.2.map Prod.fst =
      [.fromInt 5, .dup ⟨1⟩, .close ⟨1⟩, .close ⟨1⟩] := by decide +kernel
  have hopen : (ContextOp.run recordedStore (d, .empty, []) ops).1.table.openCount = 0 := by
    decide +kernel
  obtain ⟨-, -, -, hcloses, -, hexact⟩ := universal_shielded d 3 1 1 rfl hhook ops hops
  exact ⟨hhook, hops, hcalls, hcloses, hopen, (hexact hclean).2 hopen⟩

end HandleGuard
