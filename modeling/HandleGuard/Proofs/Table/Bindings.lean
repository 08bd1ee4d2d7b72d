import HandleGuard.Proofs.Table.Growth

/-!
# A table as a set of bindings

Seen through its open handles a table binds each open debug handle to a universal handle. Opening
adds a binding, closing takes one away, and nothing else changes them. The order of the bindings is
that of the slots and has no meaning, so all statements are up to `List.Perm`.
-/

namespace HandleGuard.HandleTable

variable {t t' : HandleTable}

/-- The open handles with the universal handles they stand for. -/
def bindings (t : HandleTable) : List (Handle × Handle) :=
  (t.openHandles 0).map fun o => (o.handle, o.underlying)

/-- The universal handles that open handles stand for, one for each open handle. -/
def wrapped (t : HandleTable) : List Handle := t.bindings.map Prod.snd

@[simp] theorem bindings_withCapacity (tag closedQueueMax capacity : Nat) :
    (withCapacity tag closedQueueMax capacity).bindings = [] := rfl

theorem map_fst_bindings (t : HandleTable) :
    t.bindings.map Prod.fst = (t.openHandles 0).map OpenHandle.handle := by
  rw [bindings, List.map_map]
  rfl

theorem length_bindings (ht : t.WellFormed) : t.bindings.length = t.openCount := by
  rw [bindings, List.length_map, ht.openCount_eq]

/-- The universal handles are never null. -/
theorem wrapped_ne_null (ht : t.WellFormed) {u : Handle} (hu : u ∈ t.wrapped) : u ≠ .null := by
  rw [wrapped, bindings, List.map_map, List.mem_map] at hu
  obtain ⟨o, ho, rfl⟩ := hu
  exact underlying_ne_null_of_mem ht ho

/-- There are fewer open handles than a slot field has values. -/
theorem length_wrapped_lt (ht : t.WellFormed) : t.wrapped.length < Handle.slotLimit := by
  have hcount := openCount_le_size ht
  have hsize := ht.size_le
  have hcapacity := ht.capacity_le
  rw [wrapped, List.length_map, length_bindings ht]
  simp only [Handle.maxSlots, Handle.slotLimit] at *
  omega

theorem mem_bindings_iff (ht : t.WellFormed) {h u : Handle} (hh : h ≠ .null) :
    (h, u) ∈ t.bindings ↔ t.resolve h = .ok u := by
  rw [resolve_eq_ok_iff ht hh, bindings, List.mem_map]
  simp only [Prod.mk.injEq]

/-- No other binding has the handle of one. -/
theorem fst_ne_of_perm (ht : t.WellFormed) {h u : Handle} {rest : List (Handle × Handle)}
    (hperm : t.bindings.Perm ((h, u) :: rest)) : ∀ b ∈ rest, b.1 ≠ h := by
  intro b hb heq
  have hnodup : (((h, u) :: rest).map Prod.fst).Nodup := by
    rw [← (hperm.map Prod.fst).nodup_iff, map_fst_bindings]
    exact nodup_openHandles ht
  exact (List.nodup_cons.mp hnodup).1 (List.mem_map.mpr ⟨b, hb, heq⟩)

/-- What a value that resolves stands for: null for null, and else a handle that is wrapped. -/
theorem resolve_ok (ht : t.WellFormed) {h u : Handle} (hres : t.resolve h = .ok u) :
    (h = .null ∧ u = .null) ∨ (h ≠ .null ∧ u ≠ .null ∧ u ∈ t.wrapped) := by
  by_cases hh : h = .null
  · subst hh
    exact .inl ⟨rfl, (Except.ok.inj hres).symm⟩
  · have hmem : u ∈ t.wrapped := List.mem_map_of_mem ((mem_bindings_iff ht hh).mpr hres)
    exact .inr ⟨hh, wrapped_ne_null ht hmem, hmem⟩

/-- What values that all resolve stand for. -/
theorem resolve_mapM (ht : t.WellFormed) {hs us : List Handle}
    (hres : hs.mapM t.resolve = .ok us) :
    us.length = hs.length ∧ (∀ u ∈ us, u ≠ .null → u ∈ t.wrapped) ∧
      ((∀ h ∈ hs, h ≠ .null) → ∀ u ∈ us, u ≠ .null) := by
  induction hs generalizing us with
  | nil =>
    cases hres
    simp
  | cons h hs ih =>
    rw [List.mapM_cons] at hres
    cases hh : t.resolve h with
    | error e =>
      rw [hh] at hres
      exact nomatch hres
    | ok u =>
      cases hrest : hs.mapM t.resolve with
      | error e =>
        rw [hh, hrest] at hres
        exact nomatch hres
      | ok us' =>
        rw [hh, hrest] at hres
        cases hres
        obtain ⟨hlen, hwrapped, hnull⟩ := ih hrest
        have hu := resolve_ok ht hh
        simp only [List.length_cons, List.mem_cons, forall_eq_or_imp]
        refine ⟨by omega, ⟨fun hne => ?_, hwrapped⟩, fun hne => ⟨?_, hnull hne.2⟩⟩
        · obtain ⟨-, rfl⟩ | ⟨-, -, hmem⟩ := hu
          · exact absurd rfl hne
          · exact hmem
        · obtain ⟨rfl, -⟩ | ⟨-, hu, -⟩ := hu
          · exact absurd rfl hne.1
          · exact hu

/-- Retiring slots leaves the bindings alone. -/
theorem Trace.retired_openHandles {rs : List Nat} (h : Trace t (rs.map .retired) t') :
    (t'.openHandles 0).Perm (t.openHandles 0) := by
  induction rs generalizing t with
  | nil =>
    cases h
    exact .refl _
  | cons i rs ih =>
    obtain ⟨_, hstep, hrest⟩ : ∃ t₁, Step t (.retired i) t₁ ∧
        Trace t₁ (rs.map .retired) t' := by
      cases h with
      | cons hstep hrest => exact ⟨_, hstep, hrest⟩
    exact (ih hrest).trans hstep.retired_openHandles

/-- Opening a handle adds its binding. It fails only when all slots hold open handles. -/
theorem openHandle_bindings (ht : t.WellFormed) {u : Handle} (hu : u ≠ .null) :
    (∃ h t', t.openHandle u = (.ok h, t') ∧ t'.WellFormed ∧ t'.capacity = t.capacity ∧
      t'.bindings.Perm ((h, u) :: t.bindings)) ∨
    (t.openHandle u = (.error (.tableFull t.capacity), t) ∧ t.openCount = t.capacity) := by
  obtain ⟨i, h, t', hopen, hs⟩ | ⟨i, h, t₁, t', hopen, hret, hs, -⟩ |
    ⟨hfull, hfree, hsize, hclosed⟩ := openHandle_cases ht hu
  · exact .inl ⟨h, t', hopen, hs.wellFormed ht, hs.frame.2, hs.issued_openHandles.map _⟩
  · refine .inl ⟨h, t', hopen, hs.wellFormed (hret.wellFormed ht),
      hs.frame.2.trans hret.frame.2, ?_⟩
    exact (hs.issued_openHandles.map _).trans ((hret.retired_openHandles.map _).cons _)
  · refine .inr ⟨hfull, ?_⟩
    -- No slot is free and none is that of a closed handle, so all are those of open ones.
    have htaken := takenCount_add_free ht
    simp only [takenCount, closedCount, Fifo.size_eq_length, hclosed, hfree,
      List.length_nil] at htaken
    omega

/-- Where a handle is issued there was room for it. -/
theorem openCount_lt_capacity (ht : t.WellFormed) {u h : Handle} (hu : u ≠ .null)
    (hok : (t.openHandle u).1 = .ok h) : t.openCount < t.capacity := by
  obtain ⟨h', t', hopen, ht', hcapacity, hperm⟩ | ⟨hfull, -⟩ := openHandle_bindings ht hu
  · have hlen := hperm.length_eq
    rw [List.length_cons, length_bindings ht, length_bindings ht'] at hlen
    have hcount := openCount_le_size ht'
    have hsize := ht'.size_le
    omega
  · rw [hfull] at hok
    exact nomatch hok

/-- Closing a handle takes its binding away. It fails only for values that are not bound, and
answers null with null. -/
theorem close_bindings (ht : t.WellFormed) (h : Handle) :
    (h = .null ∧ t.close h = (.ok .null, t)) ∨
    (∃ u t', t.close h = (.ok u, t') ∧ h ≠ .null ∧ u ≠ .null ∧ t'.WellFormed ∧
      t'.capacity = t.capacity ∧ t.bindings.Perm ((h, u) :: t'.bindings)) ∨
    (∃ e, t.close h = (.error e, t) ∧ h ≠ .null ∧ e.handle? = some h) := by
  by_cases hh : h = .null
  · subst hh
    exact .inl ⟨rfl, rfl⟩
  · obtain ⟨reason, -, hclose⟩ | ⟨_, _, -, -, hclose⟩ |
      ⟨i, e, t₁, hl, he, hs, -, -, hclose⟩ := close_cases ht hh
    · exact .inr (.inr ⟨_, hclose, hh, rfl⟩)
    · exact .inr (.inr ⟨_, hclose, hh, rfl⟩)
    · have ht₁ := hs.wellFormed ht
      obtain ⟨rs, htrim, -⟩ := trim_trace ht₁
      obtain ⟨hi, rfl⟩ := (lookup_eq_ok_iff ht).mp hl
      obtain ⟨e', hi', -, hperm⟩ := hs.closed_openHandles
      rw [hi] at hi'
      cases hi'
      refine .inr (.inl ⟨e.underlying, t₁.trim, hclose, hh, (ht.valid hi).2,
        htrim.wellFormed ht₁, htrim.frame.2.trans hs.frame.2, ?_⟩)
      exact (hperm.map _).trans ((htrim.retired_openHandles.map _).symm.cons _)

/-- What is not bound does not resolve, and the error tells the value. -/
theorem resolve_error {h : Handle} {e : DebugError}
    (hres : t.resolve h = .error e) : h ≠ .null ∧ e.handle? = some h := by
  have hh : h ≠ .null := by
    intro hh
    rw [hh] at hres
    cases hres
  refine ⟨hh, ?_⟩
  rw [resolve, if_neg (Handle.not_isNull hh)] at hres
  split at hres
  · cases hres
    rfl
  · split at hres
    · cases hres
    · cases hres
      rfl

/-- The dials of a table leave the bindings alone. -/
theorem setClosedQueueMax_bindings (ht : t.WellFormed) (max : Nat) :
    (t.setClosedQueueMax max).WellFormed ∧
      (t.setClosedQueueMax max).capacity = t.capacity ∧
      (t.setClosedQueueMax max).bindings.Perm t.bindings := by
  obtain ⟨rs, htrace, -⟩ := setClosedQueueMax_trace ht max
  refine ⟨htrace.wellFormed ht, htrace.frame.2, ?_⟩
  cases htrace with
  | cons hdial hrest =>
    exact (hrest.retired_openHandles.map _).trans (.of_eq (congrArg _ hdial.dialled_openHandles))

theorem newGeneration_bindings (ht : t.WellFormed) :
    t.newGeneration.WellFormed ∧ t.newGeneration.bindings = t.bindings :=
  ⟨{ ht with }, rfl⟩

/-! ### Values that may be used -/

/-- Whether the value may be used: it is null, or an open handle. -/
def Accepts (t : HandleTable) (h : Handle) : Prop :=
  h = .null ∨ h ∈ (t.openHandles 0).map OpenHandle.handle

section

variable {h : Handle} {hs us : List Handle} (ht : t.WellFormed)

include ht

theorem accepts_iff : t.Accepts h ↔ ∃ u, t.resolve h = .ok u := by
  by_cases hnull : h = .null
  · subst hnull
    exact iff_of_true (.inl rfl) ⟨.null, rfl⟩
  · rw [Accepts, or_iff_right hnull, ← map_fst_bindings]
    simp only [List.mem_map, Prod.exists, exists_and_right, exists_eq_right,
      mem_bindings_iff ht hnull]

/-- Handles resolve if all of them may be used, and null resolves to null alone. -/
theorem mapM_resolve_ok (hres : hs.mapM t.resolve = .ok us) :
    (∀ h ∈ hs, t.Accepts h) ∧ (.null ∈ us ↔ .null ∈ hs) := by
  have hall := List.mapM_except t.resolve hs
  rw [hres] at hall
  refine ⟨fun h hmem => ?_, ⟨fun hnull => ?_, fun hnull => ?_⟩⟩
  · obtain ⟨u, -, hu⟩ := hall h hmem
    exact (accepts_iff ht).mpr ⟨u, hu⟩
  · by_contra hnone
    obtain ⟨-, -, hne⟩ := resolve_mapM ht hres
    exact hne (fun h hmem heq => hnone (heq ▸ hmem)) _ hnull rfl
  · obtain ⟨u, hmem, hu⟩ := hall _ hnull
    cases hu
    exact hmem

/-- Handles that do not all resolve are refused for the first one that may not be used. -/
theorem mapM_resolve_error {e : DebugError} (hres : hs.mapM t.resolve = .error e) :
    ∃ before h after, hs = before ++ h :: after ∧ (∀ k ∈ before, t.Accepts k) ∧ ¬t.Accepts h ∧
      t.resolve h = .error e := by
  have hsplit := List.mapM_except t.resolve hs
  rw [hres] at hsplit
  obtain ⟨before, h, after, hhs, hbefore, herror⟩ := hsplit
  refine ⟨before, h, after, hhs, fun k hk => (accepts_iff ht).mpr (hbefore k hk), ?_, herror⟩
  rw [accepts_iff ht, herror]
  simp

/-- A value that cannot be closed may not be used. -/
theorem not_accepts_of_close {e : DebugError} (hclose : (t.close h).1 = .error e) :
    ¬t.Accepts h := by
  rw [accepts_iff ht]
  intro hres
  obtain ⟨u, hu⟩ := hres
  rw [(close_eq_ok_iff ht).mpr hu] at hclose
  simp at hclose

end

end HandleGuard.HandleTable
