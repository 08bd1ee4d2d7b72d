import HandleGuard.Context.Calls

/-!
# Contexts that answer alike

Two debug contexts lie in states of two kinds, before two universal contexts. What a call does to
such a state goes through the table, the log and the notes of the hook, and through calls on the
universal context. So when a relation between the states survives each of these on both sides, it
survives every call, and the calls are answered alike.

The answers of the universal contexts need not be the same. What counts is that both answer the same
handle when one of them answers a handle (`Conveys`).

* `DebugContext.Alike`            two contexts in related states
* `DebugContext.Alike.respond`    they answer every call alike, and so the checked operations
-/

namespace HandleGuard

theorem Request.operation_withHandles (r : Request) (hs : List Handle) :
    (r.withHandles hs).operation = r.operation := by
  unfold withHandles
  split <;> rfl

namespace DebugContext

/-! ### Passing a call on -/

section

variable {σ : Type} {focus : Focus σ} {universal : Universal σ} {r : Request} {s s' : σ}

theorem forward_handle {u : Handle} (h : universal r s = (.ok (.handle u), s')) :
    forward focus universal r s = wrap focus universal u s' := by
  rw [forward, h]

theorem forward_other {a : Except CallError Reply} (h : universal r s = (a, s'))
    (ha : ∀ u, a ≠ .ok (.handle u)) : forward focus universal r s = (a, s') := by
  unfold forward
  rw [h]
  split
  · rename_i u _ heq
    exact absurd (congrArg Prod.fst heq) (ha u)
  · rename_i heq
    exact heq.symm

/-- A call other than `close` is passed on once all its handles resolve. -/
theorem respond_of_ne_close (hr : ∀ k, r ≠ .close k) (s : σ) :
    respond focus universal r s = match resolveAll focus universal r.handles s with
      | (.error e, s) => (.error (.check e), s)
      | (.ok us, s) => forward focus universal (r.withHandles us) s := by
  cases r with
  | close k => exact absurd rfl (hr k)
  | _ => rfl

end

/-! ### Answers -/

/-- What an answer of one universal context says of the answer of another one. Debug contexts hand
on what they say themselves, and wrap handles only. -/
structure Conveys (A : Operation → Except CallError Reply → Except CallError Reply → Prop) :
    Prop where
  handle_left : ∀ {op u a}, A op (.ok (.handle u)) a → a = .ok (.handle u)
  handle_right : ∀ {op u a}, A op a (.ok (.handle u)) → a = .ok (.handle u)
  handle : ∀ op h, A op (.ok (.handle h)) (.ok (.handle h))
  closed : A .close (.ok .closed) (.ok .closed)
  check : ∀ op e, A op (.error (.check e)) (.error (.check e))

/-- Equal answers. -/
theorem Conveys.eq : Conveys fun _ a a' => a = a' where
  handle_left := Eq.symm
  handle_right := fun {_ _ _} h => h
  handle _ _ := rfl
  closed := rfl
  check _ _ := rfl

variable {σ σ' : Type} {A : Operation → Except CallError Reply → Except CallError Reply → Prop}
  {focus : Focus σ} {universal : Universal σ} {focus' : Focus σ'} {universal' : Universal σ'}
  {R : σ → σ' → Prop}

/-- A relation between states that everything keeps by which the two contexts change them. -/
structure Alike (A : Operation → Except CallError Reply → Except CallError Reply → Prop)
    (focus : Focus σ) (universal : Universal σ) (focus' : Focus σ') (universal' : Universal σ')
    (R : σ → σ' → Prop) : Prop where
  conveys : Conveys A
  hook : ∀ {s s'}, R s s' → (focus.get s).hook = (focus'.get s').hook
  table : ∀ (op : HandleTable → Except DebugError Handle × HandleTable) {s s'}, R s s' →
    (focus.update (onTable op) s).1 = (focus'.update (onTable op) s').1 ∧
      R (focus.update (onTable op) s).2 (focus'.update (onTable op) s').2
  record : ∀ e {s s'}, R s s' → R (focus.modify (·.record e) s) (focus'.modify (·.record e) s')
  noteHook : ∀ e {s s'}, R s s' →
    R (focus.modify (·.noteHook e) s) (focus'.modify (·.noteHook e) s')
  /-- A hook notes of a call only whether it failed, and how. -/
  noteCall : ∀ {op a a'}, A op a a' → ∀ {s s'}, R s s' →
    R (focus.modify (·.noteHook (.performed (a.map fun _ => .null))) s)
      (focus'.modify (·.noteHook (.performed (a'.map fun _ => .null))) s')
  universal : ∀ r {s s'}, R s s' →
    A r.operation (universal r s).1 (universal' r s').1 ∧ R (universal r s).2 (universal' r s').2

namespace Alike

variable (h : Alike A focus universal focus' universal' R)

include h

section

variable (onFail : DebugError → σ → σ) (onFail' : DebugError → σ' → σ')
  (hfail : ∀ e {s s'}, R s s' → R (onFail e s) (onFail' e s')) {s : σ} {s' : σ'} (hs : R s s')

include hfail hs

private theorem check (op : HandleTable → Except DebugError Handle × HandleTable) :
    (DebugContext.check focus onFail op s).1 = (DebugContext.check focus' onFail' op s').1 ∧
      R (DebugContext.check focus onFail op s).2 (DebugContext.check focus' onFail' op s').2 := by
  have htable := h.table op hs
  rw [DebugContext.check, DebugContext.check]
  generalize focus.update (onTable op) s = p at htable
  generalize focus'.update (onTable op) s' = p' at htable
  obtain ⟨a, s₁⟩ := p
  obtain ⟨a', s₁'⟩ := p'
  obtain ⟨rfl, hs₁⟩ := htable
  cases a with
  | ok u => exact ⟨rfl, hs₁⟩
  | error e => exact ⟨rfl, hfail e hs₁⟩

private theorem closeThrough (k : Handle) :
    A .close (DebugContext.closeThrough focus universal onFail k s).1
        (DebugContext.closeThrough focus' universal' onFail' k s').1 ∧
      R (DebugContext.closeThrough focus universal onFail k s).2
        (DebugContext.closeThrough focus' universal' onFail' k s').2 := by
  have hcheck := h.check onFail onFail' hfail hs (·.close k)
  rw [DebugContext.closeThrough, DebugContext.closeThrough, checkClose, checkClose]
  generalize DebugContext.check focus onFail (·.close k) s = p at hcheck
  generalize DebugContext.check focus' onFail' (·.close k) s' = p' at hcheck
  obtain ⟨a, s₁⟩ := p
  obtain ⟨a', s₁'⟩ := p'
  obtain ⟨rfl, hs₁⟩ := hcheck
  cases a with
  | error e => exact ⟨h.conveys.check _ e, hs₁⟩
  | ok u =>
    dsimp only
    split
    · exact ⟨h.conveys.closed, hs₁⟩
    · exact h.universal (.close u) hs₁

end

/-- One action of the hook, with the note of it. -/
private theorem performNoted (a : HookAction) {s : σ} {s' : σ'} (hs : R s s') :
    R (DebugContext.performNoted focus universal s a)
      (DebugContext.performNoted focus' universal' s' a) := by
  have hchecked (op : HandleTable → Except DebugError Handle × HandleTable) :
      R (focus.modify (·.noteHook (.performed
          ((DebugContext.check focus (note focus) op s).1.mapError .check)))
          (DebugContext.check focus (note focus) op s).2)
        (focus'.modify (·.noteHook (.performed
          ((DebugContext.check focus' (note focus') op s').1.mapError .check)))
          (DebugContext.check focus' (note focus') op s').2) := by
    obtain ⟨heq, hnext⟩ := h.check (note focus) (note focus') h.record hs op
    rw [heq]
    exact h.noteHook _ hnext
  cases a with
  | resolve k => exact hchecked fun t => (t.resolve k, t)
  | closeHandle k => exact hchecked (·.close k)
  | openHandle u => exact hchecked (·.openHandle u)
  | close k =>
    obtain ⟨hanswer, hnext⟩ := h.closeThrough (note focus) (note focus') h.record hs k
    exact h.noteCall hanswer hnext
  | universalClose u =>
    obtain ⟨hanswer, hnext⟩ := h.universal (.close u) hs
    exact h.noteCall hanswer hnext

private theorem foldl_performNoted (actions : List HookAction) {s : σ} {s' : σ'} (hs : R s s') :
    R (actions.foldl (DebugContext.performNoted focus universal) s)
      (actions.foldl (DebugContext.performNoted focus' universal') s') := by
  induction actions generalizing s s' with
  | nil => exact hs
  | cons a actions ih => exact ih (h.performNoted a hs)

/-- A failed check that is recorded, with all that the hook then does. -/
theorem report (e : DebugError) {s : σ} {s' : σ'} (hs : R s s') :
    R (DebugContext.report focus universal e s) (DebugContext.report focus' universal' e s') := by
  have hnoted := h.record e hs
  have hactions := congrArg (·.getD []) (h.hook hnoted)
  simp only [DebugContext.report, note]
  rw [hactions]
  exact h.foldl_performNoted _ hnoted

variable {s : σ} {s' : σ'} (hs : R s s')

include hs

theorem openHandle (u : Handle) :
    (DebugContext.openHandle focus universal u s).1 =
        (DebugContext.openHandle focus' universal' u s').1 ∧
      R (DebugContext.openHandle focus universal u s).2
        (DebugContext.openHandle focus' universal' u s').2 :=
  h.check _ _ h.report hs (·.openHandle u)

theorem resolve (k : Handle) :
    (DebugContext.resolve focus universal k s).1 =
        (DebugContext.resolve focus' universal' k s').1 ∧
      R (DebugContext.resolve focus universal k s).2
        (DebugContext.resolve focus' universal' k s').2 :=
  h.check _ _ h.report hs fun t => (t.resolve k, t)

theorem closeHandle (k : Handle) :
    (DebugContext.closeHandle focus universal k s).1 =
        (DebugContext.closeHandle focus' universal' k s').1 ∧
      R (DebugContext.closeHandle focus universal k s).2
        (DebugContext.closeHandle focus' universal' k s').2 :=
  h.check _ _ h.report hs (·.close k)

omit hs in
private theorem resolveAll (ks : List Handle) {s : σ} {s' : σ'} (hs : R s s') :
    (DebugContext.resolveAll focus universal ks s).1 =
        (DebugContext.resolveAll focus' universal' ks s').1 ∧
      R (DebugContext.resolveAll focus universal ks s).2
        (DebugContext.resolveAll focus' universal' ks s').2 := by
  induction ks generalizing s s' with
  | nil => exact ⟨rfl, hs⟩
  | cons k ks ih =>
    have hfirst := h.resolve hs k
    rw [DebugContext.resolveAll, DebugContext.resolveAll]
    generalize DebugContext.resolve focus universal k s = p at hfirst
    generalize DebugContext.resolve focus' universal' k s' = p' at hfirst
    obtain ⟨a, s₁⟩ := p
    obtain ⟨a', s₁'⟩ := p'
    obtain ⟨rfl, hs₁⟩ := hfirst
    cases a with
    | error e => exact ⟨rfl, hs₁⟩
    | ok u =>
      have hrest := ih hs₁
      dsimp only
      generalize DebugContext.resolveAll focus universal ks s₁ = q at hrest
      generalize DebugContext.resolveAll focus' universal' ks s₁' = q' at hrest
      obtain ⟨a, s₂⟩ := q
      obtain ⟨a', s₂'⟩ := q'
      obtain ⟨rfl, hs₂⟩ := hrest
      cases a <;> exact ⟨rfl, hs₂⟩

/-- A handle that both universal contexts answered. -/
private theorem wrap (op : Operation) (u : Handle) :
    A op (DebugContext.wrap focus universal u s).1 (DebugContext.wrap focus' universal' u s').1 ∧
      R (DebugContext.wrap focus universal u s).2 (DebugContext.wrap focus' universal' u s').2 := by
  have hopen := h.openHandle hs u
  rw [DebugContext.wrap, DebugContext.wrap]
  generalize DebugContext.openHandle focus universal u s = p at hopen
  generalize DebugContext.openHandle focus' universal' u s' = p' at hopen
  obtain ⟨a, s₁⟩ := p
  obtain ⟨a', s₁'⟩ := p'
  obtain ⟨rfl, hs₁⟩ := hopen
  cases a with
  | ok k => exact ⟨h.conveys.handle op k, hs₁⟩
  | error e => exact ⟨h.conveys.check op e, (h.universal (.close u) hs₁).2⟩

private theorem forward (r : Request) :
    A r.operation (DebugContext.forward focus universal r s).1
        (DebugContext.forward focus' universal' r s').1 ∧
      R (DebugContext.forward focus universal r s).2
        (DebugContext.forward focus' universal' r s').2 := by
  have hcall := h.universal r hs
  generalize hp : universal r s = p at hcall
  generalize hp' : universal' r s' = p' at hcall
  obtain ⟨a, s₁⟩ := p
  obtain ⟨a', s₁'⟩ := p'
  obtain ⟨hanswer, hs₁⟩ := hcall
  -- Only handles are wrapped, and then both sides have the same one.
  by_cases hhandle : ∃ u, a = .ok (.handle u)
  · obtain ⟨u, rfl⟩ := hhandle
    obtain rfl := h.conveys.handle_left hanswer
    rw [forward_handle hp, forward_handle hp']
    exact h.wrap hs₁ r.operation u
  · have hhandle' : ∀ u, a' ≠ .ok (.handle u) := by
      rintro u rfl
      exact hhandle ⟨u, h.conveys.handle_right hanswer⟩
    rw [forward_other hp fun u hu => hhandle ⟨u, hu⟩, forward_other hp' hhandle']
    exact ⟨hanswer, hs₁⟩

/-- Both contexts answer a call alike, and their states stay related. -/
theorem respond (r : Request) :
    A r.operation (DebugContext.respond focus universal r s).1
        (DebugContext.respond focus' universal' r s').1 ∧
      R (DebugContext.respond focus universal r s).2
        (DebugContext.respond focus' universal' r s').2 := by
  by_cases hclose : ∃ k, r = .close k
  · obtain ⟨k, rfl⟩ := hclose
    exact h.closeThrough _ _ h.report hs k
  · have hr : ∀ k, r ≠ .close k := fun k hk => hclose ⟨k, hk⟩
    have hargs := h.resolveAll r.handles hs
    rw [respond_of_ne_close hr, respond_of_ne_close hr]
    generalize DebugContext.resolveAll focus universal _ s = p at hargs
    generalize DebugContext.resolveAll focus' universal' _ s' = p' at hargs
    obtain ⟨a, s₁⟩ := p
    obtain ⟨a', s₁'⟩ := p'
    obtain ⟨rfl, hs₁⟩ := hargs
    cases a with
    | error e => exact ⟨h.conveys.check _ e, hs₁⟩
    | ok us =>
      have hforward := h.forward hs₁ (r.withHandles us)
      rwa [Request.operation_withHandles] at hforward

end Alike

end DebugContext

end HandleGuard
