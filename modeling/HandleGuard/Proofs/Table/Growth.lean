import HandleGuard.Proofs.Table.Views
import Mathlib.Algebra.Group.Nat.Defs
import Mathlib.Data.List.Induction

/-!
# A table grows only when it must

A table never gives a slot back, so the number of its slots tells how many were once needed at the
same time. A slot is taken by an open handle, or by a closed one that is still remembered, or else
it is free. A new slot is added only when none is free, and so there are as many slots as were ever
taken at once (`grows_only_when_needed`).

* `takenCount_add_free`       every slot is taken or free
* `Grows`, `perform_grows`    how an operation may change the number of slots
* `run_size`                  how far a run makes a table grow
* `neverIssued_views`         the ways to ask whether a value was never issued
-/

namespace HandleGuard.HandleTable

variable {t t' : HandleTable} {ops : List TableOp} {h u : Handle}

/-- How many slots are taken, by open handles and by closed ones that are still remembered. -/
def takenCount (t : HandleTable) : Nat := t.openCount + t.closedCount

/-- The states that a run goes through, from the first one to the last one. -/
def states (t : HandleTable) (ops : List TableOp) : List HandleTable := ops.scanl perform t

theorem map_states_ne_nil {α : Type} (f : HandleTable → α) (t : HandleTable) (ops : List TableOp) :
    (t.states ops).map f ≠ [] :=
  List.map_eq_nil_iff.not.mpr List.scanl_ne_nil

/-- The most slots that were taken in a state of a run. -/
def peak (t : HandleTable) (ops : List TableOp) : Nat :=
  ((t.states ops).map takenCount).max (map_states_ne_nil takenCount t ops)

/-- How a table may grow: not at all, or by one slot, and then no slot is free before or after. -/
inductive Grows (t t' : HandleTable) : Prop
  | same (hsize : t'.slots.size = t.slots.size)
  | more (hbefore : t.free = []) (hafter : t'.free = []) (hsize : t'.slots.size = t.slots.size + 1)

theorem Grows.size_le (hg : Grows t t') : t'.slots.size ≤ t.slots.size + 1 := by
  cases hg with
  | same hsize => omega
  | more _ _ hsize => omega

/-! ### The states of a run -/

theorem states_concat (t : HandleTable) (ops : List TableOp) (op : TableOp) :
    t.states (ops ++ [op]) = t.states ops ++ [t.run (ops ++ [op])] := by
  rw [states, List.scanl_append, List.scanl_singleton, run_append]
  rfl

/-- The states of a run are those in which its beginnings end. -/
theorem mem_states_iff {s : HandleTable} :
    s ∈ t.states ops ↔ ∃ past, past <+: ops ∧ s = t.run past := by
  induction ops using List.reverseRecOn with
  | nil => simp [states]
  | append_singleton ops op ih =>
    rw [states_concat, List.mem_append, ih, List.mem_singleton]
    simp only [List.prefix_concat_iff]
    constructor
    · rintro (⟨past, hpast, hs⟩ | hs)
      · exact ⟨past, .inr hpast, hs⟩
      · exact ⟨_, .inl rfl, hs⟩
    · rintro ⟨past, rfl | hpast, hs⟩
      · exact .inr hs
      · exact .inl ⟨past, hpast, hs⟩

theorem peak_le_iff {n : Nat} : t.peak ops ≤ n ↔ ∀ s ∈ t.states ops, s.takenCount ≤ n := by
  rw [peak, List.max_le_iff, List.forall_mem_map]

@[simp] theorem peak_nil (t : HandleTable) : t.peak [] = t.takenCount := by
  simp [peak, states]

/-- One operation more raises the peak to what is taken after it, if that is more. -/
theorem peak_concat (t : HandleTable) (ops : List TableOp) (op : TableOp) :
    t.peak (ops ++ [op]) = max (t.peak ops) (t.run (ops ++ [op])).takenCount := by
  -- What bounds all states of the longer run bounds those before and the last one.
  have hle : ∀ n, t.peak (ops ++ [op]) ≤ n ↔
      max (t.peak ops) (t.run (ops ++ [op])).takenCount ≤ n := by
    intro n
    rw [peak_le_iff, states_concat, List.forall_mem_append, ← peak_le_iff,
      List.forall_mem_singleton, Nat.max_le]
  exact Nat.le_antisymm ((hle _).mpr (Nat.le_refl _)) ((hle _).mp (Nat.le_refl _))

/-! ### Steps that add a slot -/

/-- Only the issue of a handle may add a slot. -/
theorem Step.size_eq {ev : TableEvent} (hs : Step t ev t') (hev : ev.issued? = none) :
    t'.slots.size = t.slots.size := by
  cases hs with
  | reuse => cases hev
  | grow => cases hev
  | close => simp
  | retire => simp
  | dial => rfl

theorem Trace.size_eq {evs : List TableEvent} (htrace : Trace t evs t')
    (hevs : evs.filterMap TableEvent.issued? = []) : t'.slots.size = t.slots.size := by
  induction htrace with
  | nil => rfl
  | cons hstep _ ih =>
    rw [List.filterMap_eq_nil_iff, List.forall_mem_cons, ← List.filterMap_eq_nil_iff] at hevs
    exact (ih hevs.2).trans (hstep.size_eq hevs.1)

/-- The issue of a handle adds a slot only when none is free, and takes that slot at once. -/
theorem Step.issued_grows {i : Nat} (hs : Step t (.issued i h u) t') : Grows t t' := by
  cases hs with
  | reuse => exact .same (by simp)
  | grow _ hfree => exact .more hfree hfree (by simp)

/-! ### Values that were never issued -/

/-- A value with the table's tag was never issued iff the table has no slot of its number. -/
theorem lookup_eq_neverIssued_iff {f : Handle.Fields} (hf : h.fields? = some f)
    (htag : f.tag = t.tag) : t.lookup h = .error .neverIssued ↔ t.slots.size ≤ f.slot := by
  rw [← Array.getElem?_eq_none_iff]
  simp only [lookup, hf, htag, ne_eq, not_true_eq_false, ↓reduceIte]
  cases hi : t.slots[f.slot]? with
  | none => simp
  | some s =>
    cases s with
    | free g => simp
    | occupied e => by_cases hgen : e.generation = f.generation <;> simp [hgen]

section

variable (ht : t.WellFormed)

include ht

/-! ### Slots that are taken and slots that are free -/

theorem length_openSlots : t.openSlots.length = t.openCount := by
  rw [openSlots, List.filterMap_length_eq_length.mpr, ht.openCount_eq]
  intro o ho
  obtain ⟨i, e, hi, -, rfl⟩ := mem_openHandles_iff.mp ho
  rw [slot?_handleAt ht (ht.slot_lt hi), Option.isSome_some]

/-- Every slot is taken or free. -/
theorem takenCount_add_free : t.takenCount + t.free.length = t.slots.size := by
  have hpartition := (slots_partition ht).length_eq
  rwa [List.length_append, List.length_append, length_openSlots ht, ← Fifo.size_eq_length,
    List.length_range] at hpartition

/-! ### Operations -/

theorem openHandle_grows (hu : u ≠ .null) : Grows t (t.openHandle u).2 := by
  obtain ⟨i, h, t', hopen, hissue⟩ | ⟨i, h, t₁, t', hopen, hretire, hissue, -⟩ | ⟨hfull, -⟩ :=
    openHandle_cases ht hu
  · rw [hopen]
    exact hissue.issued_grows
  · rw [hopen]
    cases hissue.issued_grows with
    | same hsize => exact .same (hsize.trans (hretire.size_eq rfl))
    | more hnone =>
      -- The slot that was just retired is free, so there is no need for a new one.
      rw [hretire.retired_free] at hnone
      cases hnone
  · rw [hfull]
    exact .same rfl

/-- An operation lets a table grow only when it must. -/
theorem perform_grows (op : TableOp) : Grows t (t.perform op) := by
  -- Without the issue of a handle there is no new slot, whatever else the operation does.
  by_cases hissued : t.issuedBy op = []
  · obtain ⟨evs, hby⟩ := perform_steps ht op
    exact .same (hby.trace.size_eq (hby.issued.symm.trans hissued))
  · cases op with
    | openHandle u =>
      have hu : u ≠ .null := by
        rintro rfl
        exact hissued rfl
      exact openHandle_grows ht hu
    | _ => exact absurd rfl hissued

/-- Where an operation adds a slot, all slots were taken. -/
theorem takenCount_of_size_lt {op : TableOp} (hlt : t.slots.size < (t.perform op).slots.size) :
    t.takenCount = t.slots.size := by
  have htaken := takenCount_add_free ht
  cases perform_grows ht op with
  | same hsize => omega
  | more hnone => rwa [hnone, List.length_nil, Nat.add_zero] at htaken

/-- After an operation there are as many slots as before, or as many as are taken then, whichever is
more. -/
theorem perform_size (op : TableOp) :
    (t.perform op).slots.size = max t.slots.size (t.perform op).takenCount := by
  have htaken := takenCount_add_free (perform_wellFormed ht op)
  cases perform_grows ht op with
  | same hsize => omega
  | more _ hnone hsize =>
    rw [hnone, List.length_nil] at htaken
    omega

/-! ### Runs -/

/-- A run adds slots until there are as many as are ever taken at once. -/
theorem run_size (ops : List TableOp) :
    (t.run ops).slots.size = max t.slots.size (t.peak ops) := by
  -- The last operation of a run decides, as those before it have made the table grow already.
  induction ops using List.reverseRecOn with
  | nil =>
    have htaken := takenCount_add_free ht
    rw [run_nil, peak_nil]
    omega
  | append_singleton ops op ih =>
    have hlast := perform_size (run_wellFormed ht ops) op
    rw [peak_concat, ← Nat.max_assoc, ← ih, run_append]
    exact hlast

/-- Slots are never taken back. -/
theorem run_size_le (ops : List TableOp) : t.slots.size ≤ (t.run ops).slots.size := by
  rw [run_size ht]
  exact Nat.le_max_left _ _

/-- A run with at most `k` handles open at any time, and with a queue for at most `m` closed ones,
never takes more than `k + m` slots. -/
theorem peak_le_of_bounds (hle : t.closedCount ≤ t.closedQueueMax) {k m : Nat}
    (hstates : ∀ s ∈ t.states ops, s.openCount ≤ k ∧ s.closedQueueMax ≤ m) :
    t.peak ops ≤ k + m := by
  refine peak_le_iff.mpr fun s hs => ?_
  obtain ⟨hopen, hmax⟩ := hstates s hs
  obtain ⟨past, -, rfl⟩ := mem_states_iff.mp hs
  have hqueue := run_closedCount_le ht hle past
  rw [takenCount]
  omega

/-- The ways to ask whether a value with the table's tag was never issued. -/
theorem neverIssued_views {f : Handle.Fields} (hf : h.fields? = some f) (htag : f.tag = t.tag) :
    [t.resolve h = .error (.invalidHandle h .neverIssued),
      (t.close h).1 = .error (.invalidHandle h .neverIssued),
      t.slots.size ≤ f.slot].TFAE := by
  have hh : h ≠ .null := by
    rintro rfl
    cases hf
  have hresolve : t.resolve h = .error (.invalidHandle h .neverIssued) ↔
      t.slots.size ≤ f.slot := by
    rw [resolve, if_neg (Handle.not_isNull hh), ← lookup_eq_neverIssued_iff hf htag]
    cases t.lookup h with
    | error reason => simp
    | ok p => cases halive : p.2.alive <;> simp [halive]
  have hclose : (t.close h).1 = .error (.invalidHandle h .neverIssued) ↔
      t.resolve h = .error (.invalidHandle h .neverIssued) := by
    rw [close_answer ht]
    split
    · rename_i hres
      simp [hres]
    · rfl
  tfae_have 1 ↔ 3 := hresolve
  tfae_have 2 ↔ 1 := hclose
  tfae_finish

end

/-- A table grows only when it must. In every state that operations can reach, it has as many slots
as were ever taken at once in the run so far, by open handles and by closed ones that are
remembered, and never more than it may have. It gets a new slot only where all are taken. So a value
with the table's tag was never issued iff the number of its slot is not below that peak. And a run
with at most `k` handles open at any time, and with a queue for at most `m` closed ones, makes do
with `k + m` slots. -/
theorem grows_only_when_needed (tag closedQueueMax capacity : Nat) (ops : List TableOp) :
    let start := withCapacity tag closedQueueMax capacity
    let t := start.run ops
    t.slots.size = start.peak ops ∧
    t.slots.size ≤ min capacity (2 ^ 28 - 1) ∧
    (∀ op, t.slots.size < (t.perform op).slots.size →
      t.openCount + t.closedCount = t.slots.size) ∧
    (∀ h f, h.fields? = some f → f.tag = t.tag →
      [t.resolve h = .error (.invalidHandle h .neverIssued),
        (t.close h).1 = .error (.invalidHandle h .neverIssued),
        start.peak ops ≤ f.slot].TFAE) ∧
    (∀ k m, (∀ s ∈ start.states ops, s.openCount ≤ k ∧ s.closedQueueMax ≤ m) →
      t.slots.size ≤ k + m) := by
  intro start t
  have hstart : start.WellFormed := withCapacity_wellFormed tag closedQueueMax capacity
  have ht : t.WellFormed := run_wellFormed hstart ops
  have hcapacity : t.capacity = min capacity (2 ^ 28 - 1) := (run_frame hstart ops).2
  -- A new table has no slots, so only the peak counts.
  have hsize : t.slots.size = start.peak ops :=
    (run_size hstart ops).trans (Nat.zero_max _)
  refine ⟨hsize, hcapacity ▸ ht.size_le, fun op hlt => takenCount_of_size_lt ht hlt, ?_, ?_⟩
  · intro h f hf htag
    rw [← hsize]
    exact neverIssued_views ht hf htag
  · intro k m hstates
    rw [hsize]
    exact peak_le_of_bounds hstart (Nat.zero_le closedQueueMax) hstates

/-- One handle is open at a time, and the queue has room for one. Of three handles the last one gets
the slot of the first one, so that two slots are enough, and no handle of a third slot was issued.
The next handle needs a third slot. -/
theorem grows_only_when_needed_two_slots :
    let first : Handle := ⟨0x30000001⟩
    let second : Handle := ⟨0x30000002⟩
    let third : Handle := ⟨0x30000003⟩
    let ops : List TableOp := [.openHandle ⟨7⟩, .close first, .openHandle ⟨8⟩, .close second,
      .openHandle ⟨9⟩]
    let start := withCapacity 3 1 5
    let t := start.run ops
    t.slots.size = start.peak ops ∧ t.slots.size ≤ 1 + 1 ∧
      t.resolve third = .error (.invalidHandle third .neverIssued) ∧
      (t.close second).1 ≠ .error (.invalidHandle second .neverIssued) ∧
      t.openCount + t.closedCount = t.slots.size := by
  intro first second third ops start t
  obtain ⟨hsize, -, hgrown, hnever, hbound⟩ := grows_only_when_needed 3 1 5 ops
  -- The slots are counted from zero, so the third handle is that of slot two.
  have hthird := hnever third ⟨2, 3, 0⟩ (by decide) (by decide +kernel)
  have hsecond := hnever second ⟨1, 3, 0⟩ (by decide) (by decide +kernel)
  refine ⟨hsize, hbound 1 1 (by decide +kernel), (hthird.out 0 2).mpr (by decide +kernel), ?_,
    hgrown (.openHandle ⟨10⟩) (by decide +kernel)⟩
  intro hunknown
  exact absurd ((hsecond.out 1 2).mp hunknown) (by decide +kernel)

end HandleGuard.HandleTable
