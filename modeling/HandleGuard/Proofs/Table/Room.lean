import HandleGuard.Proofs.Table.Bindings
import HandleGuard.Proofs.Table.Views
import Mathlib.Algebra.Group.Nat.Defs

/-!
# A full table is really full

`openHandle` looks for a slot in three places: the free list, the end of the table while it may grow,
and the slot of the handle that was closed first. So it fails only when every slot there may be holds
an open handle (`full_iff_all_open`). No open handle has to make room for the new one, and at most one
closed handle.

* `Step.keeps_open`       an open handle outlives all steps that do not close it
* `openHandle_keeps`      and so it outlives the issue of other handles
* `retireOldest_free`     a retired slot is at once the first free one
-/

namespace HandleGuard.HandleTable

variable {t t' : HandleTable} {ev : TableEvent} {h u : Handle} {o : OpenHandle}

/-- A slot with an open handle is left alone by all steps that do not close it. -/
theorem Step.open_slot {i : Nat} {e : HandleEntry} (hs : Step t ev t')
    (hev : ∀ j k, ev ≠ .closed j k) (hi : t.slots[i]? = some (.occupied e))
    (halive : e.alive = true) : t'.slots[i]? = some (.occupied e) := by
  cases ev with
  | issued j k v =>
    obtain ⟨-, g, -, hbefore, hslots⟩ := hs.issued_slots
    have hij : i ≠ j := by
      rintro rfl
      rcases hbefore with hfree | ⟨hnone, -⟩
      · simp [hi] at hfree
      · simp [hi] at hnone
    rw [hslots, if_neg hij, hi]
  | closed j k => exact absurd rfl (hev j k)
  | retired j =>
    obtain ⟨e', hj, hdead, hslots⟩ := hs.retired_slots
    have hij : i ≠ j := by
      rintro rfl
      rw [hi, Option.some.injEq, Slot.occupied.injEq] at hj
      simp [← hj, halive] at hdead
    rw [hslots, if_neg hij, hi]
  | dialled => rw [hs.dialled_slots, hi]

section

variable (ht : t.WellFormed)

include ht

/-- An open handle outlives all steps that do not close it, and its entry stays as it is. -/
theorem Step.keeps_open (hs : Step t ev t') (hev : ∀ j k, ev ≠ .closed j k)
    (ho : o ∈ t.openHandles 0) :
    o ∈ t'.openHandles 0 ∧ t'.entry? o.handle = t.entry? o.handle := by
  obtain ⟨i, e, hi, halive, rfl⟩ := mem_openHandles_iff.mp ho
  have hi' := hs.open_slot hev hi halive
  have hbefore : t.entry? (t.handleAt i e.generation) = some e :=
    (entry?_eq_some_iff ht).mpr ⟨i, hi, rfl⟩
  have hafter : t'.entry? (t.handleAt i e.generation) = some e :=
    (entry?_eq_some_iff (hs.wellFormed ht)).mpr ⟨i, hi', (hs.handleAt i e.generation).symm⟩
  refine ⟨mem_openHandles_iff.mpr ⟨i, e, hi', halive, ?_⟩, hafter.trans hbefore.symm⟩
  rw [hs.handleAt]

/-- Issuing a handle leaves the open handles as they are. -/
theorem openHandle_keeps (hu : u ≠ .null) (ho : o ∈ t.openHandles 0) :
    o ∈ (t.openHandle u).2.openHandles 0 ∧
      entry? (t.openHandle u).2 o.handle = t.entry? o.handle := by
  obtain ⟨i, h, t', hopen, hissue⟩ | ⟨i, h, t₁, t', hopen, hretire, hissue, -⟩ | ⟨hfull, -⟩ :=
    openHandle_cases ht hu
  · rw [hopen]
    exact hissue.keeps_open ht (by simp) ho
  · obtain ⟨ho₁, hentry₁⟩ := hretire.keeps_open ht (by simp) ho
    obtain ⟨ho', hentry'⟩ := hissue.keeps_open (hretire.wellFormed ht) (by simp) ho₁
    rw [hopen]
    exact ⟨ho', hentry'.trans hentry₁⟩
  · rw [hfull]
    exact ⟨ho, rfl⟩

/-- Issuing a handle gives up one closed handle at most, the oldest, and only when there is no other
slot for it. -/
theorem openHandle_gives_up (hu : u ≠ .null) (hok : (t.openHandle u).1 = .ok h) :
    (t.openHandle u).2.closedHandles = t.closedHandles ∨
      ∃ oldest, t.closedHandles = oldest :: (t.openHandle u).2.closedHandles ∧
        t.free = [] ∧ t.slots.size = t.capacity := by
  have hlisting := openHandle_closedHandles ht hu hok
  split at hlisting
  · next hgiven =>
    obtain ⟨oldest, rest, hrest⟩ := List.exists_cons_of_ne_nil hgiven.1
    rw [hrest, List.tail_cons] at hlisting
    exact .inr ⟨oldest, by rw [hrest, hlisting], hgiven.2⟩
  · exact .inl hlisting

/-- When a closed handle can be given up, its slot is at once the first free one. -/
theorem retireOldest_free {i : Nat} {rest : Fifo Nat} (hpop : t.closed.pop? = some (i, rest)) :
    t.retireOldest.free = i :: t.free := by
  have hqueue := Fifo.toList_of_pop? hpop
  obtain ⟨hnil, -⟩ | ⟨j, hretire, hfirst⟩ := retireOldest_cases ht
  · simp [hnil] at hqueue
  · rw [hqueue, List.cons.injEq] at hfirst
    rw [hretire.retired_free, hfirst.1]

theorem retireOldest_takeSlot {i : Nat} {rest : Fifo Nat}
    (hpop : t.closed.pop? = some (i, rest)) :
    ∃ t', t.retireOldest.takeSlot = some (i, t') := by
  simp only [takeSlot, retireOldest_free ht hpop]
  exact ⟨_, rfl⟩

/-- `openHandle` fails exactly when every slot there may be holds an open handle. -/
theorem openHandle_fails_iff (hu : u ≠ .null) :
    (∃ e, (t.openHandle u).1 = .error e) ↔ t.openCount = t.capacity := by
  constructor
  · rintro ⟨e, herror⟩
    obtain ⟨h, t', hopen, -⟩ | ⟨-, hcount⟩ := openHandle_bindings ht hu
    · simp [hopen] at herror
    · exact hcount
  · intro hcount
    cases hok : (t.openHandle u).1 with
    | ok h =>
      have hroom := openCount_lt_capacity ht hu hok
      omega
    | error e => exact ⟨e, rfl⟩

end

/-- A table is full only when it is really full. In every state that operations can reach, issuing a
handle fails exactly when as many handles are open as there may be slots; the error tells that number,
and nothing changes. Otherwise every open handle stays as it is, and at most one closed handle is given
up: the oldest, when no slot is free and the table cannot grow. Giving it up always makes the room that
is looked for. -/
theorem full_iff_all_open (tag closedQueueMax capacity : Nat) (ops : List TableOp) :
    let t := (withCapacity tag closedQueueMax capacity).run ops
    let slots := min capacity (2 ^ 28 - 1)
    (∀ u, u ≠ .null →
      ((∃ e, (t.openHandle u).1 = .error e) ↔ t.openCount = slots) ∧
      (∀ e, (t.openHandle u).1 = .error e → t.openHandle u = (.error (.tableFull slots), t)) ∧
      (∀ h, (t.openHandle u).1 = .ok h →
        (∀ o ∈ t.openHandles 0, o ∈ (t.openHandle u).2.openHandles 0 ∧
          entry? (t.openHandle u).2 o.handle = t.entry? o.handle) ∧
        ((t.openHandle u).2.closedHandles = t.closedHandles ∨
          ∃ oldest, t.closedHandles = oldest :: (t.openHandle u).2.closedHandles ∧
            t.free = [] ∧ t.slots.size = slots))) ∧
    (∀ slot rest, t.closed.pop? = some (slot, rest) →
      ∃ t', t.retireOldest.takeSlot = some (slot, t')) := by
  intro t slots
  have hstart := withCapacity_wellFormed tag closedQueueMax capacity
  have ht : t.WellFormed := run_wellFormed hstart ops
  have hslots : t.capacity = slots := (run_frame hstart ops).2
  refine ⟨?_, fun slot rest hpop => retireOldest_takeSlot ht hpop⟩
  intro u hu
  rw [← hslots]
  refine ⟨openHandle_fails_iff ht hu, fun e herror => openHandle_of_error ht herror, ?_⟩
  intro h hok
  exact ⟨fun o ho => openHandle_keeps ht hu ho, openHandle_gives_up ht hu hok⟩

/-- A table with two slots is filled, and one handle is closed. That handle makes room for the next
one, and then the table is full. -/
theorem full_iff_all_open_two_slots :
    let first : Handle := ⟨0x30000001⟩
    let second : Handle := ⟨0x30000002⟩
    let t := (withCapacity 3 8 2).run [.openHandle ⟨7⟩, .openHandle ⟨8⟩, .close first]
    let full := t.perform (.openHandle ⟨9⟩)
    (∃ t', t.retireOldest.takeSlot = some (0, t')) ∧
      full.entry? second = some ⟨⟨8⟩, true, 0, 0⟩ ∧
      full.closedHandles = [] ∧
      full.openHandle ⟨10⟩ = (.error (.tableFull 2), full) := by
  intro first second t full
  obtain ⟨hopen, hroom⟩ :=
    full_iff_all_open 3 8 2 [.openHandle ⟨7⟩, .openHandle ⟨8⟩, .close first]
  obtain ⟨hfull, -⟩ :=
    full_iff_all_open 3 8 2 [.openHandle ⟨7⟩, .openHandle ⟨8⟩, .close first, .openHandle ⟨9⟩]
  obtain ⟨rest, hpop, -⟩ :=
    Fifo.exists_pop?_of_toList (show t.closed.toList = [0] by decide +kernel)
  obtain ⟨-, -, hsuccess⟩ := hopen ⟨9⟩ (by decide)
  obtain ⟨hkeeps, hgives⟩ := hsuccess ⟨0x1030000001⟩ (by decide +kernel)
  obtain ⟨hiff, herror, -⟩ := hfull ⟨10⟩ (by decide)
  obtain ⟨e, he⟩ := hiff.mpr (by decide +kernel)
  refine ⟨hroom 0 rest hpop, ?_, ?_, herror e he⟩
  · have hsecond := hkeeps ⟨second, ⟨8⟩, 0⟩ (by decide +kernel)
    exact hsecond.2.trans (by decide +kernel)
  · rcases hgives with hsame | ⟨oldest, hlisting, -⟩
    · exact absurd hsame (by decide +kernel)
    · have hfirst : t.closedHandles = [first] := by decide +kernel
      rw [hfirst, List.cons.injEq] at hlisting
      exact hlisting.2.symm

end HandleGuard.HandleTable
