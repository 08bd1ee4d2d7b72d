import HandleGuard.Proofs.Table.Remembered
import HandleGuard.Proofs.Table.Run
import Mathlib.Tactic.TFAE

/-!
# All views of a table agree

A table can be asked about its handles in many ways: it lists the open and the closed ones, counts
them, looks up entries, resolves values and closes them. In every state that operations can reach,
the answers fit together (`views_agree`). Below this lies the partition of the slots: the slots of
open handles, the closed queue and the free list are, taken together, each slot exactly once
(`slots_partition`).

* `open_views`, `closed_views`   the ways to ask whether a value is open, or remembered as closed
* `run_closedCount_le`           the closed queue never grows beyond its bound
* `takeSlot_free`                a slot that is taken for a new handle is a free one
-/

namespace HandleGuard.HandleTable

variable {t t' : HandleTable} {h u : Handle}

/-! ### What a value is -/

section

variable (ht : t.WellFormed)

include ht

/-- The entry of a value is that of the slot that holds exactly this handle. -/
theorem entry?_eq_some_iff {e : HandleEntry} :
    t.entry? h = some e ↔
      ∃ i, t.slots[i]? = some (.occupied e) ∧ h = t.handleAt i e.generation := by
  simp only [← lookup_eq_ok_iff ht, entry?]
  cases t.lookup h with
  | error reason => simp
  | ok p => simp [Prod.ext_iff]

/-- The ways to ask whether `h` is open and stands for `u`. -/
theorem open_views (hh : h ≠ .null) :
    [t.resolve h = .ok u,
      ∃ o ∈ t.openHandles 0, o.handle = h ∧ o.underlying = u,
      ∃ e, t.entry? h = some e ∧ e.alive = true ∧ e.underlying = u,
      (t.close h).1 = .ok u].TFAE := by
  have hlisted := resolve_eq_ok_iff ht (u := u) hh
  have hentry : t.resolve h = .ok u ↔
      ∃ e, t.entry? h = some e ∧ e.alive = true ∧ e.underlying = u := by
    rw [resolve, if_neg (Handle.not_isNull hh), entry?]
    cases t.lookup h with
    | error reason => simp
    | ok p => cases halive : p.2.alive <;> simp [halive]
  have hclose := close_eq_ok_iff ht (h := h) (u := u)
  tfae_have 1 ↔ 2 := hlisted
  tfae_have 1 ↔ 3 := hentry
  tfae_have 4 ↔ 1 := hclose
  tfae_finish

/-- The ways to ask whether `h` is remembered as closed. -/
theorem closed_views (hh : h ≠ .null) :
    [t.resolve h = .error (.useAfterClose h),
      h ∈ t.closedHandles,
      ∃ e, t.entry? h = some e ∧ e.alive = false,
      (t.close h).1 = .error (.doubleClose h)].TFAE := by
  have hresolve : t.resolve h = .error (.useAfterClose h) ↔
      ∃ e, t.entry? h = some e ∧ e.alive = false := by
    rw [resolve, if_neg (Handle.not_isNull hh), entry?]
    cases t.lookup h with
    | error reason => simp
    | ok p => cases halive : p.2.alive <;> simp [halive]
  have hlisted : h ∈ t.closedHandles ↔ ∃ e, t.entry? h = some e ∧ e.alive = false := by
    simp only [mem_closedHandles_iff ht, entry?_eq_some_iff ht]
    constructor
    · rintro ⟨i, e, hi, hdead, heq⟩
      exact ⟨e, ⟨i, hi, heq⟩, hdead⟩
    · rintro ⟨e, ⟨i, hi, heq⟩, hdead⟩
      exact ⟨i, e, hi, hdead, heq⟩
  have hclose : (t.close h).1 = .error (.doubleClose h) ↔
      ∃ e, t.entry? h = some e ∧ e.alive = false := by
    obtain ⟨_, hl, hclose⟩ | ⟨_, e, hl, hdead, hclose⟩ | ⟨_, e, _, hl, halive, -, -, -, hclose⟩ :=
      close_cases ht hh
    · simp [hclose, entry?, hl]
    · simp [hclose, entry?, hl, hdead]
    · simp [hclose, entry?, hl, halive]
  tfae_have 1 ↔ 3 := hresolve
  tfae_have 2 ↔ 3 := hlisted
  tfae_have 4 ↔ 3 := hclose
  tfae_finish

/-- No handle is both open and remembered as closed. -/
theorem disjoint_closedHandles :
    ((t.openHandles 0).map OpenHandle.handle).Disjoint t.closedHandles := by
  intro h hopen hclosed
  obtain ⟨o, ho, rfl⟩ := List.mem_map.mp hopen
  have hh := handle_ne_null_of_mem ht ho
  have hok := (resolve_eq_ok_iff ht hh).mpr ⟨o, ho, rfl, rfl⟩
  have herror : t.resolve o.handle = .error (.useAfterClose o.handle) :=
    ((closed_views ht hh).out 1 0).mp hclosed
  rw [hok] at herror
  exact nomatch herror

/-! ### The partition of the slots -/

omit ht in
/-- The slots of the open handles. -/
def openSlots (t : HandleTable) : List Nat := (t.openHandles 0).filterMap fun o => o.handle.slot?

theorem mem_openSlots_iff {i : Nat} :
    i ∈ t.openSlots ↔ ∃ e, t.slots[i]? = some (.occupied e) ∧ e.alive = true := by
  simp only [openSlots, List.mem_filterMap, mem_openHandles_iff]
  constructor
  · rintro ⟨_, ⟨j, e, hj, he, rfl⟩, hslot⟩
    rw [slot?_handleAt ht (ht.slot_lt hj), Option.some.injEq] at hslot
    exact ⟨e, hslot ▸ hj, he⟩
  · rintro ⟨e, hi, he⟩
    exact ⟨_, ⟨i, e, hi, he, rfl⟩, slot?_handleAt ht (ht.slot_lt hi) _⟩

theorem nodup_openSlots : t.openSlots.Nodup := by
  have hnodup := nodup_openHandles ht
  rw [List.Nodup, List.pairwise_map] at hnodup
  rw [openSlots, List.Nodup, List.pairwise_filterMap]
  refine hnodup.imp_of_mem fun {o o'} ho ho' hne i hi j hj hij => hne ?_
  obtain ⟨k, e, hk, -, rfl⟩ := mem_openHandles_iff.mp ho
  obtain ⟨k', e', hk', -, rfl⟩ := mem_openHandles_iff.mp ho'
  rw [slot?_handleAt ht (ht.slot_lt hk), Option.some.injEq] at hi
  rw [slot?_handleAt ht (ht.slot_lt hk'), Option.some.injEq] at hj
  -- One slot has one entry, and so one handle.
  obtain rfl : k = k' := hi.trans (hij.trans hj.symm)
  rw [hk, Option.some.injEq, Slot.occupied.injEq] at hk'
  rw [hk']

/-- The slots of open handles, the closed queue and the free list are each slot exactly once. -/
theorem slots_partition :
    (t.openSlots ++ t.closed.toList ++ t.free).Perm (List.range t.slots.size) := by
  have hunion : (t.openSlots ++ t.closed.toList ++ t.free).Nodup := by
    rw [List.nodup_append, List.nodup_append]
    refine ⟨⟨nodup_openSlots ht, ht.closed_nodup, ?_⟩, ht.free_nodup, ?_⟩
    · rintro i hopen _ hclosed rfl
      obtain ⟨e, hi, halive⟩ := (mem_openSlots_iff ht).mp hopen
      obtain ⟨e', hi', hdead⟩ := (ht.mem_closed i).mp hclosed
      rw [hi, Option.some.injEq, Slot.occupied.injEq] at hi'
      rw [hi', hdead] at halive
      exact nomatch halive
    · rintro i htaken _ hfree rfl
      obtain ⟨g, hi⟩ := (ht.mem_free i).mp hfree
      rcases List.mem_append.mp htaken with hopen | hclosed
      · obtain ⟨e, hi', -⟩ := (mem_openSlots_iff ht).mp hopen
        rw [hi] at hi'
        exact nomatch hi'
      · obtain ⟨e, hi', -⟩ := (ht.mem_closed i).mp hclosed
        rw [hi] at hi'
        exact nomatch hi'
  -- Both sides list the slots that exist, sorted by what they hold on the left.
  refine (List.perm_ext_iff_of_nodup hunion List.nodup_range).mpr fun i => ?_
  rw [List.mem_append, List.mem_append, mem_openSlots_iff ht, ht.mem_closed, ht.mem_free,
    List.mem_range]
  constructor
  · rintro ((⟨e, hi, -⟩ | ⟨e, hi, -⟩) | ⟨g, hi⟩)
    all_goals exact (Array.getElem?_eq_some_iff.mp hi).1
  · intro hlt
    cases hi : t.slots[i]? with
    | none => exact absurd hlt (Nat.not_lt.mpr (Array.getElem?_eq_none_iff.mp hi))
    | some s =>
      cases s with
      | free g => exact .inr ⟨g, rfl⟩
      | occupied e =>
        cases halive : e.alive with
        | true => exact .inl (.inl ⟨e, rfl, halive⟩)
        | false => exact .inl (.inr ⟨e, rfl, halive⟩)

/-- A slot that is taken for a new handle is a free one. -/
theorem takeSlot_free {i : Nat} (htake : t.takeSlot = some (i, t')) :
    ∃ g, t'.slots[i]? = some (.free g) := by
  simp only [takeSlot] at htake
  split at htake
  · rename_i free hfree
    simp only [Option.some.injEq, Prod.mk.injEq] at htake
    obtain ⟨rfl, rfl⟩ := htake
    exact (ht.mem_free _).mp (hfree ▸ List.mem_cons_self)
  · split at htake
    · simp only [Option.some.injEq, Prod.mk.injEq] at htake
      obtain ⟨rfl, rfl⟩ := htake
      exact ⟨0, Array.getElem?_push_size⟩
    · cases htake

theorem retireOldest_wellFormed : t.retireOldest.WellFormed := by
  obtain ⟨-, hsame⟩ | ⟨i, hstep, -⟩ := retireOldest_cases ht
  · rwa [hsame]
  · exact hstep.wellFormed ht

/-- Where a handle can be closed, one is counted as open. -/
theorem openCount_pos (hh : h ≠ .null) (hok : (t.close h).1 = .ok u) : 0 < t.openCount := by
  obtain ⟨o, ho, -⟩ := ((open_views ht hh).out 3 1).mp hok
  rw [ht.openCount_eq]
  exact List.length_pos_of_mem ho

end

/-! ### The bound of the closed queue -/

/-- Only the dial changes the bound of the queue and the leak generation. -/
theorem Step.dials {ev : TableEvent} (hs : Step t ev t') (hev : ev ≠ .dialled) :
    t'.closedQueueMax = t.closedQueueMax ∧ t'.leakGeneration = t.leakGeneration := by
  cases hs with
  | dial => exact absurd rfl hev
  | _ => exact ⟨rfl, rfl⟩

theorem Trace.dials {evs : List TableEvent} (h : Trace t evs t') (hevs : .dialled ∉ evs) :
    t'.closedQueueMax = t.closedQueueMax ∧ t'.leakGeneration = t.leakGeneration := by
  induction h with
  | nil => exact ⟨rfl, rfl⟩
  | cons hstep _ ih =>
    rw [List.mem_cons, not_or] at hevs
    obtain ⟨hmax, hgeneration⟩ := hstep.dials (Ne.symm hevs.1)
    exact ⟨(ih hevs.2).1.trans hmax, (ih hevs.2).2.trans hgeneration⟩

theorem not_mem_map_retired (rs : List Nat) : TableEvent.dialled ∉ rs.map .retired := by
  simp

/-- After trimming the queue is within its bound. -/
theorem trim_closedCount_le (ht : t.WellFormed) : t.trim.closedCount ≤ t.trim.closedQueueMax := by
  obtain ⟨rs, htrace, -⟩ := trim_trace ht
  rw [← length_closedHandles (htrace.wellFormed ht), trim_closedHandles ht, List.length_drop,
    (htrace.dials (not_mem_map_retired rs)).1]
  omega

/-- Each operation keeps the queue within its bound. -/
theorem perform_closedCount_le (ht : t.WellFormed) (hle : t.closedCount ≤ t.closedQueueMax)
    (op : TableOp) : (t.perform op).closedCount ≤ (t.perform op).closedQueueMax := by
  have hissue : ∀ {t t' : HandleTable} {i : Nat} {h u : Handle}, Step t (.issued i h u) t' →
      t.closedCount ≤ t.closedQueueMax → t'.closedCount ≤ t'.closedQueueMax := by
    intro t t' i h u hs hle
    rwa [closedCount, hs.issued_closed, (hs.dials (by simp)).1]
  cases op with
  | openHandle u =>
    by_cases hu : u = .null
    · subst hu
      exact hle
    · obtain ⟨i, h, t', hopen, hs⟩ | ⟨i, h, t₁, t', hopen, hret, hs, -⟩ | ⟨hfull, -⟩ :=
        openHandle_cases ht hu
      · rw [perform, hopen]
        exact hissue hs hle
      · rw [perform, hopen]
        refine hissue hs ?_
        -- The retired slot has left the queue.
        have hqueue := congrArg List.length hret.retired_closed
        rw [closedCount, Fifo.size_eq_length] at hle ⊢
        rw [List.length_cons] at hqueue
        rw [(hret.dials (by simp)).1]
        omega
      · rw [perform, hfull]
        exact hle
  | resolve h => exact hle
  | close h =>
    by_cases hh : h = .null
    · subst hh
      exact hle
    · obtain ⟨_, -, hclose⟩ | ⟨_, _, -, -, hclose⟩ | ⟨_, _, t₁, -, -, hs, -, -, hclose⟩ :=
        close_cases ht hh
      · rw [perform, hclose]
        exact hle
      · rw [perform, hclose]
        exact hle
      · rw [perform, hclose]
        exact trim_closedCount_le (hs.wellFormed ht)
  | setClosedQueueMax max =>
    have hdial : Step t .dialled { t with closedQueueMax := max } := .dial max t.leakGeneration
    exact trim_closedCount_le (hdial.wellFormed ht)
  | newGeneration => exact hle

/-- Each run keeps the queue within its bound. -/
theorem run_closedCount_le (ht : t.WellFormed) (hle : t.closedCount ≤ t.closedQueueMax)
    (ops : List TableOp) : (t.run ops).closedCount ≤ (t.run ops).closedQueueMax := by
  induction ops generalizing t with
  | nil => exact hle
  | cons op ops ih => exact ih (perform_wellFormed ht op) (perform_closedCount_le ht hle op)

/-- All views of a table agree after any run from a new table, whatever it opened, closed and
changed. No handle is listed twice, the counts are those of the listings, and a value is open, or
closed and remembered, for all who ask or for none. Each slot is that of one open handle, or in the
closed queue once, or in the free list once. So a slot that is taken for a new handle is free, and no
handle can be closed when none is counted as open. -/
theorem views_agree (tag closedQueueMax capacity : Nat) (ops : List TableOp) :
    let t := (withCapacity tag closedQueueMax capacity).run ops
    let opened := (t.openHandles 0).map OpenHandle.handle
    (opened.Nodup ∧ t.closedHandles.Nodup ∧ opened.Disjoint t.closedHandles) ∧
    (t.openCount = (t.openHandles 0).length ∧ t.closedCount = t.closedHandles.length ∧
      t.closedHandles.length ≤ t.closedQueueMax) ∧
    (∀ h u, h ≠ .null →
      [t.resolve h = .ok u,
        ∃ o ∈ t.openHandles 0, o.handle = h ∧ o.underlying = u,
        ∃ e, t.entry? h = some e ∧ e.alive = true ∧ e.underlying = u,
        (t.close h).1 = .ok u].TFAE) ∧
    (∀ h, h ≠ .null →
      [t.resolve h = .error (.useAfterClose h),
        h ∈ t.closedHandles,
        ∃ e, t.entry? h = some e ∧ e.alive = false,
        (t.close h).1 = .error (.doubleClose h)].TFAE) ∧
    (t.openSlots ++ t.closed.toList ++ t.free).Perm (List.range t.slots.size) ∧
    (∀ slot t', t.takeSlot = some (slot, t') ∨ t.retireOldest.takeSlot = some (slot, t') →
      ∃ g, t'.slots[slot]? = some (.free g)) ∧
    (∀ h u, h ≠ .null → (t.close h).1 = .ok u → 0 < t.openCount) := by
  intro t opened
  have hstart := withCapacity_wellFormed tag closedQueueMax capacity
  have ht : t.WellFormed := run_wellFormed hstart ops
  have hbound : t.closedCount ≤ t.closedQueueMax :=
    run_closedCount_le hstart (Nat.zero_le closedQueueMax) ops
  have hlen := length_closedHandles ht
  refine ⟨⟨nodup_openHandles ht, nodup_closedHandles ht, disjoint_closedHandles ht⟩,
    ⟨ht.openCount_eq, hlen.symm, hlen ▸ hbound⟩, fun h u hh => open_views ht hh,
    fun h hh => closed_views ht hh, slots_partition ht, ?_, fun h u hh hok => openCount_pos ht hh hok⟩
  rintro slot t' (htake | htake)
  · exact takeSlot_free ht htake
  · exact takeSlot_free (retireOldest_wellFormed ht) htake

/-- The queue has room for one handle, so that of two closed ones the first is given up. The views
say so with one voice. -/
theorem views_agree_after_eviction :
    let first : Handle := ⟨0x30000001⟩
    let second : Handle := ⟨0x30000002⟩
    let t := (withCapacity 3 1 2).run
      [.openHandle ⟨7⟩, .openHandle ⟨8⟩, .close first, .close second]
    first ∉ t.closedHandles ∧ (t.close first).1 ≠ .error (.doubleClose first) ∧
      second ∈ t.closedHandles ∧ (t.close second).1 = .error (.doubleClose second) ∧
      t.free ++ t.closed.toList = [0, 1] := by
  intro first second t
  obtain ⟨-, -, -, hclosed, -⟩ := views_agree 3 1 2
    [.openHandle ⟨7⟩, .openHandle ⟨8⟩, .close first, .close second]
  have hfirst : first ∉ t.closedHandles := by decide +kernel
  have hsecond : second ∈ t.closedHandles := by decide +kernel
  exact ⟨hfirst, fun hdouble => hfirst (((hclosed first (by decide)).out 3 1).mp hdouble), hsecond,
    ((hclosed second (by decide)).out 1 3).mp hsecond, by decide +kernel⟩

end HandleGuard.HandleTable
