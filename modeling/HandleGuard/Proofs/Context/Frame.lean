import HandleGuard.Context.Calls
import HandleGuard.Proofs.Table.Run

/-!
# What a debug context may touch

A debug context lies somewhere in a larger state. It changes that state in four ways: by operations
on its table, by entries in its log, by notes of its hook, and by calls on its universal context. So
a relation between states that each of the four respects holds between the states before and after
any operation of the context, wherever it lies and whatever its hook does.

* `DebugContext.Framed`           a relation that the four ways respect
* `DebugContext.Framed.respond`   it holds along every call, and along the checked operations
-/

namespace HandleGuard.DebugContext

variable {σ : Type}

/-- A relation that holds along everything by which the context that `focus` points to changes the
state. -/
structure Framed (focus : Focus σ) (universal : Universal σ) (R : σ → σ → Prop) : Prop where
  refl : ∀ s, R s s
  trans : ∀ {s s' s''}, R s s' → R s' s'' → R s s''
  table : ∀ {op : HandleTable → Except DebugError Handle × HandleTable} (top : TableOp),
    (∀ t, (op t).2 = t.perform top) → ∀ s, R s (focus.update (onTable op) s).2
  record : ∀ e s, R s (focus.modify (·.record e) s)
  noteHook : ∀ e s, R s (focus.modify (·.noteHook e) s)
  universal : ∀ r s, R s (universal r s).2

namespace Framed

variable {focus : Focus σ} {universal : Universal σ} {R : σ → σ → Prop}
  (hR : Framed focus universal R)

include hR

section

variable {onFail : DebugError → σ → σ} (hfail : ∀ e s, R s (onFail e s))

include hfail

private theorem check {op : HandleTable → Except DebugError Handle × HandleTable} (top : TableOp)
    (hop : ∀ t, (op t).2 = t.perform top) (s : σ) :
    R s (DebugContext.check focus onFail op s).2 := by
  have htable := hR.table top hop s
  rw [DebugContext.check]
  generalize focus.update (onTable op) s = p at htable
  obtain ⟨a, s'⟩ := p
  cases a with
  | ok h => exact htable
  | error e => exact hR.trans htable (hfail e s')

theorem checkOpen (uh : Handle) (s : σ) : R s (DebugContext.checkOpen focus onFail uh s).2 :=
  hR.check hfail (.openHandle uh) (fun _ => rfl) s

theorem checkResolve (h : Handle) (s : σ) : R s (DebugContext.checkResolve focus onFail h s).2 :=
  hR.check hfail (.resolve h) (fun _ => rfl) s

theorem checkClose (h : Handle) (s : σ) : R s (DebugContext.checkClose focus onFail h s).2 :=
  hR.check hfail (.close h) (fun _ => rfl) s

theorem closeThrough (h : Handle) (s : σ) :
    R s (DebugContext.closeThrough focus universal onFail h s).2 := by
  have hclose := hR.checkClose hfail h s
  rw [DebugContext.closeThrough]
  generalize DebugContext.checkClose focus onFail h s = p at hclose
  obtain ⟨a, s'⟩ := p
  cases a with
  | error e => exact hclose
  | ok uh =>
    dsimp only
    split
    · exact hclose
    · exact hR.trans hclose (hR.universal (.close uh) s')

end

theorem perform (a : HookAction) (s : σ) : R s (DebugContext.perform focus universal a s).2 := by
  cases a with
  | resolve h => exact hR.checkResolve hR.record h s
  | closeHandle h => exact hR.checkClose hR.record h s
  | openHandle h => exact hR.checkOpen hR.record h s
  | close h => exact hR.closeThrough hR.record h s
  | universalClose h => exact hR.universal (.close h) s

/-- The actions of the hook, one after another. -/
theorem foldl_performNoted (actions : List HookAction) (s : σ) :
    R s (actions.foldl (performNoted focus universal) s) := by
  induction actions generalizing s with
  | nil => exact hR.refl s
  | cons a actions ih =>
    exact hR.trans (hR.trans (hR.perform a s) (hR.noteHook _ _)) (ih _)

theorem report (e : DebugError) (s : σ) : R s (DebugContext.report focus universal e s) :=
  hR.trans (hR.record e s) (hR.foldl_performNoted _ _)

theorem openHandle (uh : Handle) (s : σ) :
    R s (DebugContext.openHandle focus universal uh s).2 :=
  hR.checkOpen hR.report uh s

theorem resolve (h : Handle) (s : σ) : R s (DebugContext.resolve focus universal h s).2 :=
  hR.checkResolve hR.report h s

theorem closeHandle (h : Handle) (s : σ) : R s (DebugContext.closeHandle focus universal h s).2 :=
  hR.checkClose hR.report h s

private theorem resolveAll (hs : List Handle) (s : σ) :
    R s (DebugContext.resolveAll focus universal hs s).2 := by
  induction hs generalizing s with
  | nil => exact hR.refl s
  | cons h hs ih =>
    have hfirst := hR.resolve h s
    rw [DebugContext.resolveAll]
    generalize DebugContext.resolve focus universal h s = p at hfirst
    obtain ⟨a, s'⟩ := p
    cases a with
    | error e => exact hfirst
    | ok uh =>
      have hrest := hR.trans hfirst (ih s')
      dsimp only
      generalize DebugContext.resolveAll focus universal hs s' = q at hrest
      obtain ⟨a, s''⟩ := q
      cases a <;> exact hrest

private theorem wrap (uh : Handle) (s : σ) : R s (DebugContext.wrap focus universal uh s).2 := by
  have hopen := hR.openHandle uh s
  rw [DebugContext.wrap]
  generalize DebugContext.openHandle focus universal uh s = p at hopen
  obtain ⟨a, s'⟩ := p
  cases a with
  | ok h => exact hopen
  | error e => exact hR.trans hopen (hR.universal (.close uh) s')

private theorem forward (r : Request) (s : σ) :
    R s (DebugContext.forward focus universal r s).2 := by
  have hcall := hR.universal r s
  rw [DebugContext.forward]
  generalize universal r s = p at hcall
  obtain ⟨a, s'⟩ := p
  cases a with
  | error e => exact hcall
  | ok reply =>
    cases reply with
    | handle uh => exact hR.trans hcall (hR.wrap uh s')
    | _ => exact hcall

/-- The relation holds along every call on the context. -/
theorem respond (r : Request) (s : σ) : R s (DebugContext.respond focus universal r s).2 := by
  -- All calls but `close` resolve their handles first.
  have hargs := hR.resolveAll r.handles s
  cases r with
  | close h => exact hR.closeThrough hR.report h s
  | _ =>
    simp only [DebugContext.respond]
    generalize DebugContext.resolveAll focus universal _ s = p at hargs ⊢
    obtain ⟨a, s'⟩ := p
    cases a with
    | error e => exact hargs
    | ok uhs => exact hR.trans hargs (hR.forward _ s')

end Framed

end HandleGuard.DebugContext
