import HandleGuard.Proofs.Table.Run

/-!
# A table recounts its history

Every slot lives many lives: a handle is issued from it, closed and retired, and the next handle of
the slot carries the next generation. So the handles that a run issued from a slot are exactly those
of the generations zero, one, two and so on, whatever order the operations came in, and the slot
itself tells how far it got. `Recounts` states this for all slots, with the lists of issued and
closed handles and retired slots as the run reports them, and `run_recounts` proves it of every run
from a new table.

Generations are counted without bound here. They wrap around only when a handle is packed.
-/

namespace HandleGuard.HandleTable

/-- The handles of the first `n` lives of slot `i`. -/
def lives (t : HandleTable) (i n : Nat) : List Handle := (List.range n).map (t.handleAt i)

/-- Whether a handle belongs to slot `i`. -/
def ofSlot (i : Nat) (h : Handle) : Bool := h.slot? == some i

theorem ofSlot_iff {i : Nat} {h : Handle} : ofSlot i h = true ↔ h.slot? = some i := by
  rw [ofSlot, beq_iff_eq]

/-- What was issued from slot `i`, closed and retired there, as its present state tells it. -/
def SlotRecounts (t : HandleTable) (i : Nat) (issued : List (Handle × Handle))
    (closed : List Handle) (retirements : Nat) : Option Slot → Prop
  | none => issued = [] ∧ closed = [] ∧ retirements = 0
  | some (.free g) => 0 < retirements ∧ g = retirements % Handle.generationLimit ∧
      issued.map Prod.fst = t.lives i retirements ∧ closed = t.lives i retirements
  | some (.occupied e) => e.generation = retirements % Handle.generationLimit ∧
      issued.map Prod.fst = t.lives i (retirements + 1) ∧
      issued.getLast? = some (t.handleAt i retirements, e.underlying) ∧
      closed = t.lives i (if e.alive then retirements else retirements + 1)

/-- A table tells of each of its slots what was issued, closed and retired there. -/
structure Recounts (t : HandleTable) (issued : List (Handle × Handle)) (closed : List Handle)
    (retired : List Nat) : Prop where
  slot : ∀ i, t.SlotRecounts i (issued.filter fun p => ofSlot i p.1) (closed.filter (ofSlot i))
    (retired.count i) t.slots[i]?
  issued_slot : ∀ p ∈ issued, ∃ i, p.1.slot? = some i
  closed_slot : ∀ h ∈ closed, ∃ i, h.slot? = some i

theorem Recounts.slot_of {t : HandleTable} {issued : List (Handle × Handle)}
    {closed : List Handle} {retired : List Nat} (hr : t.Recounts issued closed retired) {i : Nat}
    {s : Option Slot} (hi : t.slots[i]? = s) :
    t.SlotRecounts i (issued.filter fun p => ofSlot i p.1) (closed.filter (ofSlot i))
      (retired.count i) s :=
  hi ▸ hr.slot i

/-- A new table has no history. -/
theorem withCapacity_recounts (tag closedQueueMax capacity : Nat) :
    (withCapacity tag closedQueueMax capacity).Recounts [] [] [] where
  slot i := by
    have : (withCapacity tag closedQueueMax capacity).slots[i]? = none := by simp [withCapacity]
    rw [this]
    exact ⟨rfl, rfl, rfl⟩
  issued_slot := by simp
  closed_slot := by simp

/-- A handle shows its generation only as far as its field reaches. -/
theorem handleAt_mod (t : HandleTable) (i g : Nat) :
    t.handleAt i (g % Handle.generationLimit) = t.handleAt i g := by
  simp only [handleAt, Handle.Fields.encode, Nat.mod_mod]

theorem lives_succ (t : HandleTable) (i n : Nat) :
    t.lives i (n + 1) = t.lives i n ++ [t.handleAt i n] := by
  simp [lives, List.range_succ]

theorem length_lives (t : HandleTable) (i n : Nat) : (t.lives i n).length = n := by
  simp [lives]

section

variable {t t' : HandleTable} {I : List (Handle × Handle)} {C : List Handle} {R : List Nat}

private theorem slotRecounts_congr (htag : t'.tag = t.tag) {i n : Nat} {s : Option Slot}
    {issued : List (Handle × Handle)} {closed : List Handle}
    (h : t.SlotRecounts i issued closed n s) : t'.SlotRecounts i issued closed n s := by
  have hat : t'.handleAt = t.handleAt := by funext i g; simp only [handleAt, htag]
  cases s with
  | none => exact h
  | some s => cases s <;> simpa only [SlotRecounts, lives, hat] using h

private theorem filter_ofSlot_append {i j : Nat} {h : Handle} (hslot : h.slot? = some j)
    (hs : List Handle) :
    (hs ++ [h]).filter (ofSlot i) = hs.filter (ofSlot i) ++ if i = j then [h] else [] := by
  by_cases hij : i = j
  · subst hij
    simp [ofSlot, hslot]
  · have : ¬j = i := fun h => hij h.symm
    simp [ofSlot, hslot, hij, this]

private theorem filter_fst_append {i j : Nat} {h u : Handle} (hslot : h.slot? = some j)
    (ps : List (Handle × Handle)) :
    ((ps ++ [(h, u)]).filter fun p => ofSlot i p.1) =
      (ps.filter fun p => ofSlot i p.1) ++ if i = j then [(h, u)] else [] := by
  by_cases hij : i = j
  · subst hij
    simp [ofSlot, hslot]
  · have : ¬j = i := fun h => hij h.symm
    simp [ofSlot, hslot, hij, this]

/-- The handle issued next from a slot is that of the life after all its retirements, and all
earlier lives were issued before. -/
theorem Recounts.next (hr : t.Recounts I C R) {i : Nat} {h u : Handle}
    (hs : Step t (.issued i h u) t') :
    h = t.handleAt i (R.count i) ∧
      (I.filter fun p => ofSlot i p.1).map Prod.fst = t.lives i (R.count i) ∧
      C.filter (ofSlot i) = t.lives i (R.count i) := by
  obtain ⟨-, g, rfl, hbefore, -⟩ := hs.issued_slots
  -- A free slot carries its next generation. A new slot had no handle and starts with zero.
  rcases hbefore with hfree | ⟨hnone, -, rfl⟩
  · obtain ⟨-, rfl, hissued, hclosed⟩ := hr.slot_of hfree
    exact ⟨handleAt_mod t i _, hissued, hclosed⟩
  · obtain ⟨hissued, hclosed, hcount⟩ := hr.slot_of hnone
    rw [hissued, hclosed, hcount]
    exact ⟨rfl, rfl, rfl⟩

private theorem Recounts.issue (ht : t.WellFormed) (hr : t.Recounts I C R) {i : Nat}
    {h u : Handle} (hs : Step t (.issued i h u) t') : t'.Recounts (I ++ [(h, u)]) C R := by
  have hslot : h.slot? = some i := hs.issued_slot? ht
  obtain ⟨hh, hissued, hclosed⟩ := hr.next hs
  obtain ⟨-, g, hg, hbefore, hslots⟩ := hs.issued_slots
  -- Only the slot of the step has a new history. For the others nothing is added.
  refine ⟨fun j => slotRecounts_congr hs.frame.1 ?_, ?_, hr.closed_slot⟩
  · rw [hslots, filter_fst_append hslot]
    by_cases hji : j = i
    · subst hji
      simp only [↓reduceIte, SlotRecounts, List.map_append, hissued, hclosed, lives_succ,
        List.getLast?_append, hh]
      refine ⟨?_, rfl, rfl, trivial⟩
      rcases hbefore with hfree | ⟨hnone, -, rfl⟩
      · exact (hr.slot_of hfree).2.1
      · rw [(hr.slot_of hnone).2.2]
        rfl
    · simpa only [if_neg hji, List.append_nil] using hr.slot j
  · intro p hp
    rcases List.mem_append.mp hp with hp | hp
    · exact hr.issued_slot p hp
    · rw [List.mem_singleton.mp hp]
      exact ⟨i, hslot⟩

private theorem Recounts.close (ht : t.WellFormed) (hr : t.Recounts I C R) {i : Nat} {h : Handle}
    (hs : Step t (.closed i h) t') : t'.Recounts I (C ++ [h]) R := by
  have hslot : h.slot? = some i := hs.closed_slot? ht
  obtain ⟨e, hi, he, rfl, hslots⟩ := hs.closed_slots
  refine ⟨fun j => slotRecounts_congr hs.frame.1 ?_, hr.issued_slot, ?_⟩
  · rw [hslots, filter_ofSlot_append hslot]
    by_cases hji : j = i
    · subst hji
      obtain ⟨hgen, hissued, hlast, hclosed⟩ := hr.slot_of hi
      simp only [he, ↓reduceIte] at hclosed
      simp only [↓reduceIte, SlotRecounts, Bool.false_eq_true, lives_succ, hclosed]
      refine ⟨hgen, hissued.trans (lives_succ t j _), hlast, ?_⟩
      rw [hgen, handleAt_mod]
    · simpa only [if_neg hji, List.append_nil] using hr.slot j
  · intro k hk
    rcases List.mem_append.mp hk with hk | hk
    · exact hr.closed_slot k hk
    · rw [List.mem_singleton.mp hk]
      exact ⟨i, hslot⟩

private theorem Recounts.retire (hr : t.Recounts I C R) {i : Nat}
    (hs : Step t (.retired i) t') : t'.Recounts I C (R ++ [i]) := by
  obtain ⟨e, hi, he, hslots⟩ := hs.retired_slots
  refine ⟨fun j => slotRecounts_congr hs.frame.1 ?_, hr.issued_slot, hr.closed_slot⟩
  rw [hslots, List.count_append, List.count_singleton]
  by_cases hji : j = i
  · subst hji
    obtain ⟨hgen, hissued, -, hclosed⟩ := hr.slot_of hi
    simp only [he, Bool.false_eq_true, ↓reduceIte] at hclosed
    simp only [↓reduceIte, beq_self_eq_true, SlotRecounts]
    refine ⟨Nat.succ_pos _, ?_, hissued, hclosed⟩
    -- Counting on and wrapping around commute.
    rw [Handle.nextGeneration, hgen, Nat.mod_add_mod]
  · have : (i == j) = false := beq_eq_false_iff_ne.mpr (Ne.symm hji)
    simpa only [if_neg hji, this, Bool.false_eq_true, ↓reduceIte, Nat.add_zero] using hr.slot j

/-- Each step of a table adds to the history that the table recounts. -/
theorem Recounts.step (ht : t.WellFormed) (hr : t.Recounts I C R) {ev : TableEvent}
    (hs : Step t ev t') :
    t'.Recounts (I ++ ev.issued?.toList) (C ++ ev.closed?.toList) (R ++ ev.retired?.toList) := by
  cases ev with
  | issued i h u => simpa [TableEvent.issued?, TableEvent.closed?, TableEvent.retired?]
      using hr.issue ht hs
  | closed i h => simpa [TableEvent.issued?, TableEvent.closed?, TableEvent.retired?]
      using hr.close ht hs
  | retired i => simpa [TableEvent.issued?, TableEvent.closed?, TableEvent.retired?]
      using hr.retire hs
  | dialled =>
    simp only [TableEvent.issued?, TableEvent.closed?, TableEvent.retired?, Option.toList_none,
      List.append_nil]
    refine ⟨fun j => slotRecounts_congr hs.frame.1 ?_, hr.issued_slot, hr.closed_slot⟩
    rw [hs.dialled_slots]
    exact hr.slot j

theorem Recounts.trace (ht : t.WellFormed) (hr : t.Recounts I C R) {evs : List TableEvent}
    (h : Trace t evs t') :
    t'.Recounts (I ++ evs.filterMap TableEvent.issued?) (C ++ evs.filterMap TableEvent.closed?)
      (R ++ evs.filterMap TableEvent.retired?) := by
  -- Induction on the trace, for all lists: each step adds to them.
  induction h generalizing I C R with
  | nil => simpa using hr
  | cons hstep _ ih =>
    have hrest := ih (hstep.wellFormed ht) (hr.step ht hstep)
    simpa only [List.append_assoc, List.toList_append_filterMap] using hrest

/-- Each run adds to the history that the table recounts. -/
theorem Recounts.run (ht : t.WellFormed) (hr : t.Recounts I C R) (ops : List TableOp) :
    (t.run ops).Recounts (I ++ t.issued ops) (C ++ t.closedIn ops) (R ++ t.retired ops) := by
  obtain ⟨evs, htrace, hissued, hclosed, hretired⟩ := run_trace ht ops
  rw [hissued, hclosed, hretired]
  exact hr.trace ht htrace

end

/-- After every run from a new table, the table recounts what the run issued, closed and
retired. -/
theorem run_recounts (tag closedQueueMax capacity : Nat) (ops : List TableOp) :
    let start := withCapacity tag closedQueueMax capacity
    (start.run ops).Recounts (start.issued ops) (start.closedIn ops) (start.retired ops) := by
  have := (withCapacity_recounts tag closedQueueMax capacity).run
    (withCapacity_wellFormed tag closedQueueMax capacity) ops
  simpa only [List.nil_append] using this

end HandleGuard.HandleTable
