import HandleGuard.Proofs.Table.WellFormed
import Mathlib.Data.List.Basic

/-!
# What the operations of a table do, step by step

Every operation of a table is a sequence of small steps: a handle is issued from a slot, a handle is
closed, the slot that was closed first is retired, or a dial is turned. `Step` says all that one
step does, `Trace` strings steps together, and the `_cases` theorems say which steps each operation
takes and what it answers:

* `retireOldest_cases`, `trim_trace`   the two ways in which slots leave the closed queue
* `openHandle_cases`                   issue; retire and issue; or refuse because the table is full
* `close_cases`                        close and trim; or refuse without a change

Each step keeps a table well-formed (`Step.wellFormed`).
-/

namespace HandleGuard

/-- What one step of a table did. -/
inductive TableEvent where
  /-- The handle `h` for `u` was issued from a slot. -/
  | issued (slot : Nat) (h u : Handle)
  /-- The handle `h` of a slot was closed. -/
  | closed (slot : Nat) (h : Handle)
  /-- A slot left the closed queue and is free. -/
  | retired (slot : Nat)
  /-- The bound of the closed queue or the leak generation changed. -/
  | dialled
deriving DecidableEq

namespace HandleTable

/-- One step of a table. -/
inductive Step : HandleTable → TableEvent → HandleTable → Prop where
  | reuse {t : HandleTable} {i g : Nat} {free : List Nat} {u : Handle} (hu : u ≠ .null)
      (hfree : t.free = i :: free) (hi : t.slots[i]? = some (.free g)) :
      Step t (.issued i (t.handleAt i g) u)
        { t with
          slots := t.slots.setIfInBounds i (.occupied ⟨u, true, g, t.leakGeneration⟩)
          free
          openCount := t.openCount + 1 }
  | grow {t : HandleTable} {u : Handle} (hu : u ≠ .null) (hfree : t.free = [])
      (hsize : t.slots.size < t.capacity) :
      Step t (.issued t.slots.size (t.handleAt t.slots.size 0) u)
        { t with
          slots := t.slots.push (.occupied ⟨u, true, 0, t.leakGeneration⟩)
          openCount := t.openCount + 1 }
  | close {t : HandleTable} {i : Nat} {e : HandleEntry} (hi : t.slots[i]? = some (.occupied e))
      (he : e.alive = true) :
      Step t (.closed i (t.handleAt i e.generation))
        { t with
          slots := t.slots.setIfInBounds i (.occupied { e with alive := false })
          openCount := t.openCount - 1
          closed := t.closed.push i }
  | retire {t : HandleTable} {i : Nat} {closed : Fifo Nat} {e : HandleEntry}
      (hpop : t.closed.pop? = some (i, closed)) (hi : t.slots[i]? = some (.occupied e))
      (he : e.alive = false) :
      Step t (.retired i)
        { t with
          slots := t.slots.setIfInBounds i (.free (Handle.nextGeneration e.generation))
          free := i :: t.free
          closed }
  | dial {t : HandleTable} (max : Nat) (generation : UInt64) :
      Step t .dialled { t with closedQueueMax := max, leakGeneration := generation }

/-- Steps one after another. -/
inductive Trace : HandleTable → List TableEvent → HandleTable → Prop where
  | nil (t : HandleTable) : Trace t [] t
  | cons {t t₁ t' : HandleTable} {e : TableEvent} {es : List TableEvent} (hstep : Step t e t₁)
      (hrest : Trace t₁ es t') : Trace t (e :: es) t'

section

variable {t t' t'' : HandleTable} {ev : TableEvent} {evs evs' : List TableEvent}

theorem Step.trace (hs : Step t ev t') : Trace t [ev] t' := .cons hs (.nil _)

theorem Trace.append (h : Trace t evs t') (h' : Trace t' evs' t'') :
    Trace t (evs ++ evs') t'' := by
  induction h with
  | nil => exact h'
  | cons hstep _ ih => exact .cons hstep (ih h')

/-- Steps leave the tag and the capacity alone. -/
theorem Step.frame (hs : Step t ev t') : t'.tag = t.tag ∧ t'.capacity = t.capacity := by
  cases hs <;> exact ⟨rfl, rfl⟩

theorem Trace.frame (h : Trace t evs t') : t'.tag = t.tag ∧ t'.capacity = t.capacity := by
  induction h with
  | nil => exact ⟨rfl, rfl⟩
  | cons hstep _ ih => exact ⟨ih.1.trans hstep.frame.1, ih.2.trans hstep.frame.2⟩

/-- The handle of a slot and generation is the same all along. -/
theorem Step.handleAt (hs : Step t ev t') (i g : Nat) : t'.handleAt i g = t.handleAt i g := by
  simp only [HandleTable.handleAt, hs.frame.1]

/-! ### Slots -/

/-- Issuing fills a free slot, or a new one, with an open entry. -/
theorem Step.issued_slots {i : Nat} {h u : Handle} (hs : Step t (.issued i h u) t') :
    u ≠ .null ∧ ∃ g, h = t.handleAt i g ∧
      (t.slots[i]? = some (.free g) ∨ t.slots[i]? = none ∧ i = t.slots.size ∧ g = 0) ∧
      ∀ j, t'.slots[j]? =
        if j = i then some (.occupied ⟨u, true, g, t.leakGeneration⟩) else t.slots[j]? := by
  cases hs with
  | reuse hu _ hi => exact ⟨hu, _, rfl, .inl hi, getElem?_set hi _⟩
  | grow hu => exact ⟨hu, 0, rfl, .inr ⟨by simp, rfl, rfl⟩, fun j => by rw [Array.getElem?_push]⟩

/-- A handle is issued from a free slot, or from a new one while the table may grow. -/
theorem Step.issued_room {i : Nat} {h u : Handle} (hs : Step t (.issued i h u) t') :
    ¬(t.free = [] ∧ t.slots.size = t.capacity) := by
  rintro ⟨hnone, hfull⟩
  cases hs with
  | reuse _ hfree =>
    rw [hnone] at hfree
    exact nomatch hfree
  | grow _ _ hsize => omega

/-- Closing marks an open entry closed. -/
theorem Step.closed_slots {i : Nat} {h : Handle} (hs : Step t (.closed i h) t') :
    ∃ e, t.slots[i]? = some (.occupied e) ∧ e.alive = true ∧ h = t.handleAt i e.generation ∧
      ∀ j, t'.slots[j]? =
        if j = i then some (.occupied { e with alive := false }) else t.slots[j]? := by
  cases hs with
  | close hi he => exact ⟨_, hi, he, rfl, getElem?_set hi _⟩

/-- Retiring frees the slot of a closed entry, one generation on. -/
theorem Step.retired_slots {i : Nat} (hs : Step t (.retired i) t') :
    ∃ e, t.slots[i]? = some (.occupied e) ∧ e.alive = false ∧
      ∀ j, t'.slots[j]? =
        if j = i then some (.free (Handle.nextGeneration e.generation)) else t.slots[j]? := by
  cases hs with
  | retire _ hi he => exact ⟨_, hi, he, getElem?_set hi _⟩

/-- Issuing leaves the closed queue alone. -/
theorem Step.issued_closed {i : Nat} {h u : Handle} (hs : Step t (.issued i h u) t') :
    t'.closed = t.closed := by
  cases hs <;> rfl

/-- Retiring takes the slot that was closed first off the queue. -/
theorem Step.retired_closed {i : Nat} (hs : Step t (.retired i) t') :
    t.closed.toList = i :: t'.closed.toList := by
  cases hs with
  | retire hpop => exact Fifo.toList_of_pop? hpop

/-- A retired slot is the first to be used again. -/
theorem Step.retired_free {i : Nat} (hs : Step t (.retired i) t') : t'.free = i :: t.free := by
  cases hs; rfl

theorem Step.dialled_slots (hs : Step t .dialled t') : t'.slots = t.slots := by
  cases hs; rfl

/-! ### Open handles -/

/-- Issuing adds one open handle. -/
theorem Step.issued_openHandles {i : Nat} {h u : Handle} (hs : Step t (.issued i h u) t') :
    (t'.openHandles 0).Perm (⟨h, u, t.leakGeneration⟩ :: t.openHandles 0) := by
  cases hs with
  | reuse hu hfree hi =>
    obtain ⟨rest, hold, hnew⟩ := openHandles_set hi
    exact .trans (hnew _ _ rfl rfl) (hold.symm.cons _)
  | grow hu hfree hsize =>
    -- A new slot comes last in the listing, so this is no equality.
    have := openHandles_push (Step.grow hu hfree hsize).frame.1 rfl
    exact this ▸ List.perm_append_comm

/-- Closing takes one open handle away. -/
theorem Step.closed_openHandles {i : Nat} {h : Handle} (hs : Step t (.closed i h) t') :
    ∃ e, t.slots[i]? = some (.occupied e) ∧ h = t.handleAt i e.generation ∧
      (t.openHandles 0).Perm (⟨h, e.underlying, e.openedIn⟩ :: t'.openHandles 0) := by
  cases hs with
  | @close _ e hi he =>
    obtain ⟨rest, hold, hnew⟩ := openHandles_set hi
    rw [openAt_open _ he] at hold
    exact ⟨_, hi, rfl, hold.trans (.cons _ (.symm (hnew _ (.occupied { e with alive := false })
      rfl rfl)))⟩

/-- Retiring a slot leaves the open handles alone. -/
theorem Step.retired_openHandles {i : Nat} (hs : Step t (.retired i) t') :
    (t'.openHandles 0).Perm (t.openHandles 0) := by
  cases hs with
  | retire hpop hi he =>
    obtain ⟨rest, hold, hnew⟩ := openHandles_set hi
    rw [openAt_closed _ he] at hold
    exact .trans (hnew _ _ rfl rfl) hold.symm

theorem Step.dialled_openHandles (hs : Step t .dialled t') : t'.openHandles 0 = t.openHandles 0 := by
  cases hs; rfl

/-! ### Steps keep a table well-formed -/

theorem nextGeneration_lt (g : Nat) : Handle.nextGeneration g < Handle.generationLimit :=
  Nat.mod_lt _ (by decide)

private theorem reuse_wellFormed (ht : t.WellFormed) {i g : Nat} {free : List Nat} {u : Handle}
    (hu : u ≠ .null) (hfree : t.free = i :: free) (hi : t.slots[i]? = some (.free g)) :
    { t with
      slots := t.slots.setIfInBounds i (.occupied ⟨u, true, g, t.leakGeneration⟩)
      free
      openCount := t.openCount + 1 }.WellFormed := by
  have hnodup := ht.free_nodup
  rw [hfree, List.nodup_cons] at hnodup
  have hg : g < Handle.generationLimit := ht.valid hi
  refine { ht with
    size_le := by simpa using ht.size_le
    valid := valid_set ht.valid hi (.occupied ⟨u, true, g, _⟩) ⟨hg, hu⟩
    free_nodup := hnodup.2
    mem_free := fun j => ?_
    mem_closed := fun j => ?_
    openCount_eq := ?_ }
  · have := ht.mem_free j
    rw [hfree, List.mem_cons] at this
    rw [getElem?_set hi]
    grind
  · rw [getElem?_set hi, ht.mem_closed]
    grind
  · rw [(Step.reuse hu hfree hi).issued_openHandles.length_eq, List.length_cons, ht.openCount_eq]

private theorem grow_wellFormed (ht : t.WellFormed) {u : Handle} (hu : u ≠ .null)
    (hfree : t.free = []) (hsize : t.slots.size < t.capacity) :
    { t with
      slots := t.slots.push (.occupied ⟨u, true, 0, t.leakGeneration⟩)
      openCount := t.openCount + 1 }.WellFormed := by
  -- The new slot is beyond the old ones, so neither list can hold its number.
  have hnone : t.slots[t.slots.size]? = none := by simp
  refine { ht with
    size_le := by rw [Array.size_push]; exact hsize
    valid := fun {j s} hj => ?_
    mem_free := fun j => ?_
    mem_closed := fun j => ?_
    openCount_eq := ?_ }
  · rw [Array.getElem?_push] at hj
    split at hj
    · exact Option.some.inj hj ▸ ⟨(by decide : 0 < Handle.generationLimit), hu⟩
    · exact ht.valid hj
  · rw [Array.getElem?_push, ht.mem_free]
    grind
  · rw [Array.getElem?_push, ht.mem_closed]
    grind
  · rw [(Step.grow hu hfree hsize).issued_openHandles.length_eq, List.length_cons, ht.openCount_eq]

private theorem close_wellFormed (ht : t.WellFormed) {i : Nat} {e : HandleEntry}
    (hi : t.slots[i]? = some (.occupied e)) (he : e.alive = true) :
    { t with
      slots := t.slots.setIfInBounds i (.occupied { e with alive := false })
      openCount := t.openCount - 1
      closed := t.closed.push i }.WellFormed := by
  -- The slot is open, so it is not in the queue yet.
  have hmem := ht.mem_closed i
  have hnodup := ht.closed_nodup
  have hvalid : e.generation < Handle.generationLimit ∧ e.underlying ≠ .null := ht.valid hi
  refine { ht with
    size_le := by simpa using ht.size_le
    valid := valid_set ht.valid hi (.occupied { e with alive := false }) hvalid
    mem_free := fun j => ?_
    closed_nodup := ?_
    mem_closed := fun j => ?_
    openCount_eq := ?_ }
  · rw [getElem?_set hi, ht.mem_free]
    grind
  · rw [Fifo.toList_push, List.nodup_append]
    grind
  · rw [Fifo.toList_push, List.mem_append, getElem?_set hi, ht.mem_closed]
    grind
  · obtain ⟨e', -, -, hperm⟩ := (Step.close hi he).closed_openHandles
    have := hperm.length_eq
    rw [List.length_cons, ← ht.openCount_eq] at this
    exact Nat.sub_eq_of_eq_add this

private theorem retire_wellFormed (ht : t.WellFormed) {i : Nat} {closed : Fifo Nat}
    {e : HandleEntry} (hpop : t.closed.pop? = some (i, closed))
    (hi : t.slots[i]? = some (.occupied e)) (he : e.alive = false) :
    { t with
      slots := t.slots.setIfInBounds i (.free (Handle.nextGeneration e.generation))
      free := i :: t.free
      closed }.WellFormed := by
  have hqueue := Fifo.toList_of_pop? hpop
  have hnodup := ht.closed_nodup
  rw [hqueue, List.nodup_cons] at hnodup
  -- The slot is taken, so it is not in the free list yet.
  have hmem := ht.mem_free i
  refine { ht with
    size_le := by simpa using ht.size_le
    valid := valid_set ht.valid hi (.free _) (nextGeneration_lt _)
    free_nodup := List.nodup_cons.mpr ⟨by grind, ht.free_nodup⟩
    mem_free := fun j => ?_
    closed_nodup := hnodup.2
    mem_closed := fun j => ?_
    openCount_eq := ?_ }
  · rw [List.mem_cons, getElem?_set hi, ht.mem_free]
    split <;> simp [*]
  · have := ht.mem_closed j
    rw [hqueue, List.mem_cons] at this
    rw [getElem?_set hi]
    grind
  · rw [(Step.retire hpop hi he).retired_openHandles.length_eq, ← ht.openCount_eq]

/-- Each step keeps a table well-formed. -/
theorem Step.wellFormed (ht : t.WellFormed) (hs : Step t ev t') : t'.WellFormed := by
  cases hs with
  | reuse hu hfree hi => exact reuse_wellFormed ht hu hfree hi
  | grow hu hfree hsize => exact grow_wellFormed ht hu hfree hsize
  | close hi he => exact close_wellFormed ht hi he
  | retire hpop hi he => exact retire_wellFormed ht hpop hi he
  | dial max generation => exact { ht with }

/-- An issued handle belongs to the slot it was issued from. -/
theorem Step.issued_slot? (ht : t.WellFormed) {i : Nat} {h u : Handle}
    (hs : Step t (.issued i h u) t') : h.slot? = some i := by
  obtain ⟨-, g, rfl, -, hslots⟩ := hs.issued_slots
  have hi := hslots i
  rw [if_pos rfl] at hi
  rw [← hs.handleAt]
  exact slot?_handleAt (hs.wellFormed ht) ((hs.wellFormed ht).slot_lt hi) g

/-- A closed handle belongs to the slot it was closed in. -/
theorem Step.closed_slot? (ht : t.WellFormed) {i : Nat} {h : Handle}
    (hs : Step t (.closed i h) t') : h.slot? = some i := by
  obtain ⟨e, hi, -, rfl, -⟩ := hs.closed_slots
  exact slot?_handleAt ht (ht.slot_lt hi) _

/-- An issued handle is not null. -/
theorem Step.issued_ne_null (ht : t.WellFormed) {i : Nat} {h u : Handle}
    (hs : Step t (.issued i h u) t') : h ≠ .null := by
  obtain ⟨-, g, rfl, -, hslots⟩ := hs.issued_slots
  have hi := hslots i
  rw [if_pos rfl] at hi
  rw [← hs.handleAt]
  exact (hs.wellFormed ht).handleAt_ne_null hi g

theorem Trace.wellFormed (ht : t.WellFormed) (h : Trace t evs t') : t'.WellFormed := by
  induction h with
  | nil => exact ht
  | cons hstep _ ih => exact ih (hstep.wellFormed ht)

/-! ### The steps of each operation -/

/-- A table without closed handles has nothing to retire; else the slot that was closed first is
retired. -/
theorem retireOldest_cases (ht : t.WellFormed) :
    (t.closed.toList = [] ∧ t.retireOldest = t) ∨
      ∃ i, Step t (.retired i) t.retireOldest ∧
        t.closed.toList = i :: t.retireOldest.closed.toList := by
  cases hpop : t.closed.pop? with
  | none => exact .inl ⟨Fifo.pop?_eq_none_iff.mp hpop, by simp only [retireOldest, hpop]⟩
  | some p =>
    obtain ⟨i, closed⟩ := p
    have hqueue := Fifo.toList_of_pop? hpop
    -- A slot in the queue holds a closed entry.
    obtain ⟨e, hi, he⟩ := (ht.mem_closed i).mp (hqueue ▸ List.mem_cons_self)
    have hret : t.retireOldest = { t with
        slots := t.slots.setIfInBounds i (.free (Handle.nextGeneration e.generation))
        free := i :: t.free
        closed } := by
      simp only [retireOldest, hpop, hi]
    exact .inr ⟨i, hret ▸ .retire hpop hi he, hret ▸ hqueue⟩

/-- Retiring `n` times retires the `n` slots that were closed first, in this order. -/
theorem repeat_retireOldest (ht : t.WellFormed) :
    ∀ n, n ≤ t.closed.toList.length →
      Trace t ((t.closed.toList.take n).map .retired) (Nat.repeat retireOldest n t) ∧
        (Nat.repeat retireOldest n t).closed.toList = t.closed.toList.drop n := by
  intro n
  -- Induction on the number of retirements; `Nat.repeat` takes the last one outermost.
  induction n with
  | zero => exact fun _ => ⟨.nil t, rfl⟩
  | succ n ih =>
    intro hn
    obtain ⟨htrace, hqueue⟩ := ih (by omega)
    -- The queue still has an element to retire, and its first one is the `n`-th of before.
    have hcons := List.drop_eq_getElem_cons (show n < t.closed.toList.length by omega)
    change Trace t _ (Nat.repeat retireOldest n t).retireOldest ∧
      (Nat.repeat retireOldest n t).retireOldest.closed.toList = _
    obtain ⟨hnil, -⟩ | ⟨i, hstep, hhead⟩ := retireOldest_cases (htrace.wellFormed ht)
    · rw [hqueue, hcons] at hnil
      exact nomatch hnil
    · rw [hqueue, hcons] at hhead
      injection hhead with hi hrest
      refine ⟨?_, hrest.symm⟩
      -- The `n + 1` first are the `n` first and the one that was just retired.
      rw [List.take_add_one, List.getElem?_eq_getElem (by omega), List.map_append]
      exact htrace.append (hi ▸ hstep.trace)

/-- Trimming retires the slots that were closed first, as many as are too many. -/
theorem trim_trace (ht : t.WellFormed) :
    ∃ rs : List Nat, Trace t (rs.map .retired) t.trim ∧
      t.closed.toList = rs ++ t.trim.closed.toList ∧
      rs.length = t.closed.toList.length - t.closedQueueMax := by
  have hle := Nat.sub_le t.closed.toList.length t.closedQueueMax
  obtain ⟨htrace, hqueue⟩ := repeat_retireOldest ht _ hle
  rw [trim, Fifo.size_eq_length]
  exact ⟨_, htrace, by rw [hqueue, List.take_append_drop], List.length_take_of_le hle⟩

/-- Changing the bound of the closed queue turns the dial and trims. -/
theorem setClosedQueueMax_trace (ht : t.WellFormed) (max : Nat) :
    ∃ rs : List Nat, Trace t (.dialled :: rs.map .retired) (t.setClosedQueueMax max) ∧
      t.closed.toList = rs ++ (t.setClosedQueueMax max).closed.toList ∧
      rs.length = t.closed.toList.length - max := by
  have hdial : Step t .dialled { t with closedQueueMax := max } := .dial max t.leakGeneration
  obtain ⟨rs, htrace, hqueue, hlen⟩ := trim_trace (hdial.wellFormed ht)
  exact ⟨rs, .cons hdial htrace, hqueue, hlen⟩

/-- Replacing the slot that was just added is adding the replacement. -/
private theorem setIfInBounds_push (slots : Array Slot) (s s' : Slot) :
    (slots.push s).setIfInBounds slots.size s' = slots.push s' := by
  refine Array.ext_getElem? fun j => ?_
  rw [getElem?_set Array.getElem?_push_size, Array.getElem?_push, Array.getElem?_push]
  split <;> rfl

/-- Where a slot can be taken, filling it issues a handle from it. -/
private theorem takeSlot_fill (ht : t.WellFormed) {u : Handle} (hu : u ≠ .null) {i : Nat}
    (h : t.takeSlot = some (i, t')) :
    Step t (.issued i (t'.fill i u).1 u) (t'.fill i u).2 := by
  simp only [takeSlot] at h
  split at h
  · rename_i free hfree
    simp only [Option.some.injEq, Prod.mk.injEq] at h
    obtain ⟨rfl, rfl⟩ := h
    -- The first free slot is filled with the generation it waits with.
    obtain ⟨g, hi⟩ := (ht.mem_free _).mp (hfree ▸ List.mem_cons_self)
    simp only [fill, hi, Option.map_some, Option.getD_some, Slot.generation]
    exact .reuse hu hfree hi
  · rename_i hfree
    split at h
    · rename_i hsize
      simp only [Option.some.injEq, Prod.mk.injEq] at h
      obtain ⟨rfl, rfl⟩ := h
      -- The new slot is a free one of generation zero for the moment, and is filled at once.
      simp only [fill, Array.getElem?_push_size, Option.map_some, Option.getD_some,
        Slot.generation, setIfInBounds_push]
      exact .grow hu hfree hsize
    · exact nomatch h

/-- No slot can be taken when none is free and the table may not grow. -/
theorem takeSlot_eq_none_iff :
    t.takeSlot = none ↔ t.free = [] ∧ t.capacity ≤ t.slots.size := by
  simp only [takeSlot]
  split
  · rename_i hfree
    simp [hfree]
  · rename_i hfree
    simp [hfree]

/-- What `openHandle` does for a handle that is not null. -/
theorem openHandle_cases (ht : t.WellFormed) {u : Handle} (hu : u ≠ .null) :
    (∃ i h t', t.openHandle u = (.ok h, t') ∧ Step t (.issued i h u) t') ∨
      (∃ i h t₁ t', t.openHandle u = (.ok h, t') ∧ Step t (.retired i) t₁ ∧
        Step t₁ (.issued i h u) t' ∧ t.free = [] ∧ t.slots.size = t.capacity) ∨
      (t.openHandle u = (.error (.tableFull t.capacity), t) ∧ t.free = [] ∧
        t.slots.size = t.capacity ∧ t.closed.toList = []) := by
  have hnull : ¬u.isNull = true := Handle.not_isNull hu
  cases htake : t.takeSlot with
  | some p =>
    obtain ⟨i, t₁⟩ := p
    refine .inl ⟨i, _, _, ?_, takeSlot_fill ht hu htake⟩
    simp only [openHandle, hnull, htake, Bool.false_eq_true, ↓reduceIte]
  | none =>
    obtain ⟨hfree, hsize⟩ := takeSlot_eq_none_iff.mp htake
    have hsize : t.slots.size = t.capacity := Nat.le_antisymm ht.size_le hsize
    -- No slot is free. One can be made free as long as some handle is closed.
    obtain ⟨hnil, hret⟩ | ⟨i, hstep, -⟩ := retireOldest_cases ht
    · refine .inr (.inr ⟨?_, hfree, hsize, hnil⟩)
      simp only [openHandle, hnull, htake, hret, Bool.false_eq_true, ↓reduceIte]
    · -- The retired slot is the only free one, so it is the one that is taken.
      have htake' : t.retireOldest.takeSlot =
          some (i, { t.retireOldest with free := [] }) := by
        simp only [takeSlot, hstep.retired_free, hfree]
      refine .inr (.inl ⟨i, _, _, _, ?_, hstep, takeSlot_fill (hstep.wellFormed ht) hu htake',
        hfree, hsize⟩)
      simp only [openHandle, hnull, htake, htake', Bool.false_eq_true, ↓reduceIte]

/-- The only failure of `openHandle` is that the table is full, and then nothing changes. -/
theorem openHandle_of_error (ht : t.WellFormed) {u : Handle} {e : DebugError}
    (herror : (t.openHandle u).1 = .error e) :
    t.openHandle u = (.error (.tableFull t.capacity), t) := by
  by_cases hu : u = .null
  · subst hu
    exact nomatch herror
  · obtain ⟨_, _, _, hopen, -⟩ | ⟨_, _, _, _, hopen, -⟩ | ⟨hfull, -⟩ := openHandle_cases ht hu
    · rw [hopen] at herror
      exact nomatch herror
    · rw [hopen] at herror
      exact nomatch herror
    · exact hfull

/-- What `close` does with a value that is not null. -/
theorem close_cases (ht : t.WellFormed) {h : Handle} (hh : h ≠ .null) :
    (∃ reason, t.lookup h = .error reason ∧ t.close h = (.error (.invalidHandle h reason), t)) ∨
      (∃ i e, t.lookup h = .ok (i, e) ∧ e.alive = false ∧
        t.close h = (.error (.doubleClose h), t)) ∨
      (∃ i e t₁, t.lookup h = .ok (i, e) ∧ e.alive = true ∧ Step t (.closed i h) t₁ ∧
        t₁.closed.toList = t.closed.toList ++ [i] ∧ t₁.closedQueueMax = t.closedQueueMax ∧
        t.close h = (.ok e.underlying, t₁.trim)) := by
  have hnull : ¬h.isNull = true := Handle.not_isNull hh
  cases hl : t.lookup h with
  | error reason =>
    exact .inl ⟨reason, rfl, by simp only [close, hnull, hl, Bool.false_eq_true, ↓reduceIte]⟩
  | ok p =>
    obtain ⟨i, e⟩ := p
    cases he : e.alive with
    | false =>
      refine .inr (.inl ⟨i, e, rfl, he, ?_⟩)
      simp only [close, hnull, hl, he, Bool.false_eq_true, ↓reduceIte]
    | true =>
      obtain ⟨hi, rfl⟩ := (lookup_eq_ok_iff ht).mp hl
      refine .inr (.inr ⟨i, e, _, rfl, he, .close hi he, Fifo.toList_push _ _, rfl, ?_⟩)
      simp only [close, hnull, hl, he, Bool.false_eq_true, ↓reduceIte]

/-- `close` answers a value as `resolve` does, but a closed handle is closed twice. -/
theorem close_answer (ht : t.WellFormed) (h : Handle) :
    (t.close h).1 = match t.resolve h with
      | .error (.useAfterClose _) => .error (.doubleClose h)
      | answer => answer := by
  by_cases hh : h = .null
  · subst hh
    rfl
  · have hnull : ¬h.isNull = true := Handle.not_isNull hh
    rw [resolve, if_neg hnull]
    obtain ⟨_, hl, hclose⟩ | ⟨i, e, hl, he, hclose⟩ | ⟨i, e, _, hl, he, -, -, -, hclose⟩ :=
      close_cases ht hh
    · simp only [hclose, hl]
    · simp only [hclose, hl, he, Bool.false_eq_true, ↓reduceIte]
    · simp only [hclose, hl, he, ↓reduceIte]

/-- A handle can be closed iff it resolves. -/
theorem close_eq_ok_iff (ht : t.WellFormed) {h u : Handle} :
    (t.close h).1 = .ok u ↔ t.resolve h = .ok u := by
  rw [close_answer ht]
  split
  · rename_i hres
    simp [hres]
  · rfl

end

end HandleTable

end HandleGuard
