import HandleGuard.Replay
import HandleGuard.Proofs.Context.Frame
import HandleGuard.Proofs.Context.Shield
import HandleGuard.Proofs.Store.Refusal

/-!
# What a replay session answers to any call

A session may be given any handle, and may lose references to `closeHandle`. Still every open handle
wraps an object (`Session.Sound`), so the store refuses nothing but what can be told from the call:
`Sound.respond_cases` says which calls on a session fail in the store, and `Sound.apply` that all
operations keep the session sound.
-/

namespace HandleGuard

open DebugContext

/-! ### The hook -/

/-- Only `setHook` changes the hook. -/
theorem ContextOp.hook_apply {τ : Type} (U : Universal τ) (c : DebugContext × τ) {op : ContextOp}
    (hop : ∀ hook, op ≠ .setHook hook) : (op.apply U c).1.hook = c.1.hook := by
  have hframe : Framed (Focus.first (τ := τ)) U.beside fun c c' => c'.1.hook = c.1.hook := {
    refl := fun _ => rfl
    trans := fun h h' => h'.trans h
    table := fun _ _ _ => rfl
    record := fun e c => record_hook c.1 e
    noteHook := fun _ _ => rfl
    universal := fun _ _ => rfl }
  cases op with
  | call r => exact hframe.respond r c
  | resolve h => exact hframe.resolve h c
  | closeHandle h => exact hframe.closeHandle h c
  | setClosedQueueMax max => rfl
  | newGeneration => rfl
  | setHook hook => exact absurd rfl (hop hook)

/-! ### Places in the store -/

section

variable {d : DebugContext} {s : ObjectStore} (hhook : d.hook = none)

include hhook

/-- Without a hook, a checked operation on the table leaves the store as it is. -/
private theorem snd_check (op : HandleTable → Except DebugError Handle × HandleTable) :
    (check .first (DebugContext.report .first Session.universal) op (d, s)).2.2 = s := by
  rw [check_first]
  split
  · rfl
  · rw [report_of_hook_none Session.universal _ (by exact hhook)]

private theorem size_wrap (u : Handle) :
    (DebugContext.wrap .first Session.universal u (d, s)).2.2.objects.size = s.objects.size := by
  have hopen := snd_check (s := s) hhook (·.openHandle u)
  rw [DebugContext.wrap, openHandle, checkOpen]
  generalize check .first _ _ (d, s) = p at hopen ⊢
  obtain ⟨a, d', s'⟩ := p
  obtain rfl : s' = s := hopen
  cases a with
  | ok h => rfl
  | error e => exact ObjectStore.size_respond_close u s'

/-- A call takes one new place at most. -/
private theorem size_respond (r : Request) :
    (Session.respond r (d, s)).2.2.objects.size ≤ s.objects.size + 1 := by
  by_cases hclose : ∃ k, r = .close k
  · obtain ⟨k, rfl⟩ := hclose
    have hcheck := snd_check (s := s) hhook (·.close k)
    rw [Session.respond, DebugContext.respond, closeThrough, checkClose]
    generalize check .first _ _ (d, s) = p at hcheck ⊢
    obtain ⟨a, d', s'⟩ := p
    obtain rfl : s' = s := hcheck
    cases a with
    | error e => exact Nat.le_succ _
    | ok u =>
      dsimp only
      split
      · exact Nat.le_succ _
      · exact Nat.le_succ_of_le (Nat.le_of_eq (ObjectStore.size_respond_close u s'))
  · rw [Session.respond, respond_first _ fun k hk => hclose ⟨k, hk⟩]
    cases r.handles.mapM d.table.resolve with
    | error e =>
      dsimp only
      rw [report_of_hook_none Session.universal e hhook]
      exact Nat.le_succ _
    | ok us =>
      have hsize := ObjectStore.size_respond_le (r.withHandles us) s
      dsimp only
      rw [forward, Session.universal, Universal.beside]
      generalize ObjectStore.respond (r.withHandles us) s = p at hsize ⊢
      obtain ⟨a, s'⟩ := p
      cases a with
      | error e => exact hsize
      | ok reply =>
        cases reply with
        | handle u => exact Nat.le_trans (Nat.le_of_eq (size_wrap hhook u)) hsize
        | _ => exact hsize

theorem ContextOp.size_apply_le (op : ContextOp) :
    (op.apply ObjectStore.respond (d, s)).2.objects.size ≤ s.objects.size + 1 := by
  cases op with
  | call r => exact size_respond hhook r
  | resolve h =>
    exact Nat.le_succ_of_le (Nat.le_of_eq (congrArg (·.objects.size) (snd_check hhook _)))
  | closeHandle h =>
    exact Nat.le_succ_of_le (Nat.le_of_eq (congrArg (·.objects.size) (snd_check hhook _)))
  | _ => exact Nat.le_succ _

end

/-! ### Sound sessions -/

namespace Session

/-- Every open handle of the session wraps an object of its store, and the store has made no more
than `n` places for objects. There is no hook. -/
structure Sound (n : Nat) (c : Session) : Prop where
  shielded : Shielded False none [] (c.1, c.2, [])
  size_le : c.2.objects.size ≤ n

namespace Sound

variable {n : Nat} {c : Session}

theorem start (config : Config) : (Session.start config).Sound 0 where
  shielded := {
    table := HandleTable.withCapacity_wellFormed _ _ _
    store := ObjectStore.empty_wellFormed
    covers := ObjectStore.Covers.empty.mono False.elim
    answered := List.forall_mem_nil _
    hook_eq := rfl }
  size_le := Nat.le_refl 0

theorem hook (hc : c.Sound n) : c.1.hook = none := hc.shielded.hook_eq

/-- A hook that is not there does nothing wrong. -/
private theorem mildHook_none : MildHook none := List.forall_mem_nil _

/-- Every operation keeps a session sound. -/
theorem apply (hc : c.Sound n) (op : ContextOp) (hop : ∀ hook, op ≠ .setHook hook) :
    Sound (n + 1) (op.apply ObjectStore.respond c) := by
  obtain ⟨d, st⟩ := c
  -- The store is shielded as if it kept a record from here on.
  have hrecord : op.apply ObjectStore.respond (d, st) =
      along Prod.fst (op.apply recordedStore (d, st, [])) :=
    apply_along (agree_recorded ObjectStore.respond) op (d, st, [])
  have hhook := ContextOp.hook_apply recordedStore (d, st, []) hop
  obtain ⟨hook', -, hshielded⟩ :=
    hc.shielded.apply mildHook_none op fun hook heq => absurd heq (hop hook)
  refine ⟨?_, Nat.le_trans (ContextOp.size_apply_le hc.hook op) (Nat.succ_le_succ hc.size_le)⟩
  rw [hrecord]
  exact {
    table := hshielded.table
    store := hshielded.store
    covers := hshielded.covers.mono False.elim
    answered := List.forall_mem_nil _
    hook_eq := hhook.trans hc.hook }

/-- What a call other than `close` does that is passed on with handles that are wrapped, or null. -/
private theorem forward_cases (hc : c.Sound n) (hroom : n + 1 < Numeral.wordLimit) {r : Request}
    (hclose : ∀ h, r ≠ .close h) (hargs : ∀ u ∈ r.handles, u ≠ .null → u ∈ c.1.table.wrapped) :
    match r.refusal with
    | some e => (forward .first universal r c).1 = .error e.toCallError
    | none => ∀ code text, (forward .first universal r c).1 ≠ .error (.call code text) := by
  obtain ⟨d, st⟩ := c
  have hrefusal := ObjectStore.respond_refusal hc.shielded.store
    (Nat.lt_of_le_of_lt (Nat.succ_le_succ hc.size_le) hroom) hclose fun u hu hnull =>
      (ObjectStore.refs_pos_iff hc.shielded.store).mp (hc.shielded.refs_pos (hargs u hu hnull))
  rw [forward, universal, Universal.beside]
  cases hr : r.refusal with
  | some e =>
    rw [hr] at hrefusal
    rw [hrefusal]
  | none =>
    rw [hr] at hrefusal
    obtain ⟨reply, st', hres⟩ := hrefusal
    rw [hres]
    intro code text
    cases reply with
    | handle u =>
      dsimp only
      rw [DebugContext.wrap]
      split <;> simp
    | _ => simp

/-- When a call fails in the store: all its handles may be used, and the call tells why it fails. -/
theorem respond_cases (hc : c.Sound n) (hroom : n + 1 < Numeral.wordLimit) (r : Request) :
    (∃ e, (respond r c).1 = .error e.toCallError ∧ (∀ h ∈ r.handles, c.1.table.Accepts h) ∧
      r.refusal = some e) ∨
    ((∀ code text, (respond r c).1 ≠ .error (.call code text)) ∧
      ((∀ h ∈ r.handles, c.1.table.Accepts h) → r.refusal = none)) := by
  obtain ⟨d, st⟩ := c
  by_cases hclose : ∃ k, r = .close k
  · -- Null is not passed on, and an open handle wraps an object, which can be closed.
    obtain ⟨k, rfl⟩ := hclose
    refine .inr ⟨fun code text => ?_, fun _ => rfl⟩
    have hrecord : (respond (.close k) (d, st)).1 =
        (DebugContext.respond .first recordedStore.beside (.close k) (d, st, [])).1 :=
      congrArg Prod.fst (respond_along (agree_recorded ObjectStore.respond) (.close k) (d, st, []))
    rw [hrecord]
    obtain ⟨c', hres, -⟩ | ⟨e, c', hres, -⟩ :=
      Shielded.closeThrough (Shielded.report mildHook_none) hc.shielded k
    · rw [DebugContext.respond, hres]
      simp
    · rw [DebugContext.respond, hres]
      simp
  · have hne : ∀ k, r ≠ .close k := fun k hk => hclose ⟨k, hk⟩
    have ht : d.table.WellFormed := hc.shielded.table
    rw [respond, respond_first _ hne]
    cases hres : r.handles.mapM d.table.resolve with
    | error e =>
      refine .inr ⟨by simp, fun hall => ?_⟩
      obtain ⟨_, h, _, hsplit, -, hrefused, -⟩ := HandleTable.mapM_resolve_error ht hres
      exact absurd (hall h (hsplit ▸ List.mem_append_right _ List.mem_cons_self)) hrefused
    | ok us =>
      obtain ⟨haccepts, hnull⟩ := HandleTable.mapM_resolve_ok ht hres
      obtain ⟨hlen, hwrapped, -⟩ := HandleTable.resolve_mapM ht hres
      have hforward := hc.forward_cases hroom (withHandles_ne_close us hne)
        (by rw [Request.handles_withHandles hlen]; exact hwrapped)
      rw [Request.refusal_withHandles hlen hnull] at hforward
      cases hr : r.refusal with
      | some e =>
        rw [hr] at hforward
        exact .inl ⟨e, hforward, haccepts, rfl⟩
      | none =>
        rw [hr] at hforward
        exact .inr ⟨hforward, fun _ => rfl⟩

end Sound

end Session

end HandleGuard
