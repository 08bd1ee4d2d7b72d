import HandleGuard.Proofs.Table.Step
import Mathlib.Data.List.Basic

/-!
# The closed handles that a table remembers

The closed queue holds slot numbers, and `closedHandles` reads the handles back from the slots. In a
well-formed table this loses nothing: the listing has one handle for each slot in the queue. A step
changes it as it changes the queue.

* `Step.issued_closedHandles`, `Step.closed_closedHandles`, `Step.retired_closedHandles`
  issuing changes nothing, closing adds at the end, retiring takes the first one away
* `trim_closedHandles`         trimming keeps the latest ones, as many as the queue may hold
* `openHandle_closedHandles`   issuing gives up the oldest one when there is no other slot
* `close_remembers`            after a close the handle is the latest one
-/

namespace HandleGuard.HandleTable

variable {t t' : HandleTable} {ev : TableEvent}

/-- The handle that slot `i` holds, open or closed. -/
def heldAt (t : HandleTable) (i : Nat) : Option Handle :=
  match t.slots[i]? with
  | some (.occupied e) => some (t.handleAt i e.generation)
  | _ => none

theorem heldAt_of_occupied {i : Nat} {e : HandleEntry} (hi : t.slots[i]? = some (.occupied e)) :
    t.heldAt i = some (t.handleAt i e.generation) := by
  rw [heldAt, hi]

theorem closedHandles_eq (t : HandleTable) :
    t.closedHandles = t.closed.toList.filterMap t.heldAt := rfl

/-- Slots that a table has left alone hold the same handles. -/
theorem filterMap_heldAt_congr (htag : t'.tag = t.tag) {queue : List Nat}
    (hslots : ∀ i ∈ queue, t'.slots[i]? = t.slots[i]?) :
    queue.filterMap t'.heldAt = queue.filterMap t.heldAt := by
  refine List.filterMap_congr fun i hi => ?_
  simp only [heldAt, handleAt, hslots i hi, htag]

section

variable (ht : t.WellFormed)

include ht

/-- Every slot in the queue holds a handle. -/
theorem length_closedHandles : t.closedHandles.length = t.closedCount := by
  rw [closedCount, Fifo.size_eq_length, closedHandles_eq, List.filterMap_length_eq_length]
  intro i hi
  obtain ⟨e, he, -⟩ := (ht.mem_closed i).mp hi
  rw [heldAt_of_occupied he, Option.isSome_some]

/-- No handle is remembered twice. -/
theorem nodup_closedHandles : t.closedHandles.Nodup := by
  rw [closedHandles_eq, List.Nodup, List.pairwise_filterMap]
  refine ht.closed_nodup.imp_of_mem fun {i j} hi hj hne h hh k hk heq => hne ?_
  obtain ⟨e, he, -⟩ := (ht.mem_closed i).mp hi
  obtain ⟨e', he', -⟩ := (ht.mem_closed j).mp hj
  -- The handle of a slot tells the slot.
  rw [heldAt_of_occupied he, Option.some.injEq] at hh
  rw [heldAt_of_occupied he', Option.some.injEq] at hk
  rw [← hh, ← hk] at heq
  exact (handleAt_inj (ht.slot_lt he) (ht.slot_lt he') heq).1

/-! ### Steps -/

theorem Step.issued_closedHandles {i : Nat} {h u : Handle} (hs : Step t (.issued i h u) t') :
    t'.closedHandles = t.closedHandles := by
  obtain ⟨-, g, -, hbefore, hslots⟩ := hs.issued_slots
  rw [closedHandles_eq, closedHandles_eq, hs.issued_closed]
  refine filterMap_heldAt_congr hs.frame.1 fun j hj => ?_
  obtain ⟨e, he, -⟩ := (ht.mem_closed j).mp hj
  -- The slot of the new handle held none before, so it is not in the queue.
  have hji : j ≠ i := by
    rintro rfl
    rcases hbefore with hfree | ⟨hnone, -⟩
    · rw [hfree] at he
      exact nomatch he
    · rw [hnone] at he
      exact nomatch he
  rw [hslots, if_neg hji]

omit ht in
/-- Closing puts the slot at the end of the queue. -/
theorem Step.closed_queue {i : Nat} {h : Handle} (hs : Step t (.closed i h) t') :
    t'.closed.toList = t.closed.toList ++ [i] := by
  cases hs with
  | close => exact Fifo.toList_push _ _

theorem Step.closed_closedHandles {i : Nat} {h : Handle} (hs : Step t (.closed i h) t') :
    t'.closedHandles = t.closedHandles ++ [h] := by
  have hqueue := hs.closed_queue
  obtain ⟨e, hi, he, rfl, hslots⟩ := hs.closed_slots
  have hself : t'.heldAt i = some (t.handleAt i e.generation) := by
    have hi' := hslots i
    rw [if_pos rfl] at hi'
    rw [heldAt_of_occupied hi', hs.handleAt]
  rw [closedHandles_eq, hqueue, List.filterMap_append, List.filterMap_cons_some hself,
    List.filterMap_nil]
  congr 1
  refine filterMap_heldAt_congr hs.frame.1 fun j hj => ?_
  obtain ⟨e', he', hdead⟩ := (ht.mem_closed j).mp hj
  -- The slot that is closed now was open, so it was not in the queue.
  have hji : j ≠ i := by
    rintro rfl
    rw [hi, Option.some.injEq, Slot.occupied.injEq] at he'
    rw [he', hdead] at he
    exact nomatch he
  rw [hslots, if_neg hji]

theorem Step.retired_closedHandles {i : Nat} (hs : Step t (.retired i) t') :
    ∃ h, t.closedHandles = h :: t'.closedHandles := by
  obtain ⟨e, hi, -, hslots⟩ := hs.retired_slots
  have hqueue := hs.retired_closed
  have hnodup := ht.closed_nodup
  rw [hqueue, List.nodup_cons] at hnodup
  refine ⟨t.handleAt i e.generation, ?_⟩
  rw [closedHandles_eq, hqueue, List.filterMap_cons_some (heldAt_of_occupied hi)]
  congr 1
  refine (filterMap_heldAt_congr hs.frame.1 fun j hj => ?_).symm
  have hji : j ≠ i := fun hji => hnodup.1 (hji ▸ hj)
  rw [hslots, if_neg hji]

/-- Retiring slots takes the handles that were closed first away, one for each slot. -/
theorem Trace.retired_closedHandles {rs : List Nat} (h : Trace t (rs.map .retired) t') :
    t'.closedHandles = t.closedHandles.drop rs.length := by
  induction rs generalizing t with
  | nil =>
    cases h
    rfl
  | cons i rs ih =>
    cases h with
    | cons hstep hrest =>
      obtain ⟨k, hk⟩ := hstep.retired_closedHandles ht
      rw [ih (hstep.wellFormed ht) hrest, hk, List.length_cons, List.drop_succ_cons]

/-! ### Operations -/

/-- Trimming keeps the handles that were closed last, as many as the queue may hold. -/
theorem trim_closedHandles :
    t.trim.closedHandles = t.closedHandles.drop (t.closedHandles.length - t.closedQueueMax) := by
  obtain ⟨rs, htrace, -, hlen⟩ := trim_trace ht
  rw [htrace.retired_closedHandles ht, hlen, length_closedHandles ht, closedCount,
    Fifo.size_eq_length]

/-- Issuing a handle gives up the one that was closed first when no slot can be had otherwise. -/
theorem openHandle_closedHandles {u h : Handle} (hu : u ≠ .null)
    (hok : (t.openHandle u).1 = .ok h) :
    (t.openHandle u).2.closedHandles =
      if t.closedHandles ≠ [] ∧ t.free = [] ∧ t.slots.size = t.capacity then t.closedHandles.tail
      else t.closedHandles := by
  obtain ⟨i, h', t', hopen, hs⟩ | ⟨i, h', t₁, t', hopen, hret, hs, hfree, hsize⟩ | ⟨hfull, -⟩ :=
    openHandle_cases ht hu
  · rw [hopen, if_neg fun hnone => hs.issued_room hnone.2]
    exact hs.issued_closedHandles ht
  · obtain ⟨oldest, hqueue⟩ := hret.retired_closedHandles ht
    rw [hopen, hqueue, if_pos ⟨List.cons_ne_nil _ _, hfree, hsize⟩, List.tail_cons]
    exact hs.issued_closedHandles (hret.wellFormed ht)
  · rw [hfull] at hok
    exact nomatch hok

/-- A closed handle is the latest one that is remembered, if any is. The older ones stay as long as
there is room for them. -/
theorem close_remembers {h u : Handle} (hh : h ≠ .null) (hok : (t.close h).1 = .ok u) :
    (t.close h).2.closedHandles.reverse =
      (h :: t.closedHandles.reverse).take t.closedQueueMax := by
  obtain ⟨_, -, hclose⟩ | ⟨_, _, -, -, hclose⟩ | ⟨i, e, t₁, -, -, hstep, -, hmax, hclose⟩ :=
    close_cases ht hh
  · rw [hclose] at hok
    exact nomatch hok
  · rw [hclose] at hok
    exact nomatch hok
  · rw [hclose]
    show t₁.trim.closedHandles.reverse = _
    rw [trim_closedHandles (hstep.wellFormed ht), hstep.closed_closedHandles ht, hmax,
      List.reverse_drop, List.reverse_append, List.reverse_singleton, List.singleton_append]
    -- What is dropped from the front of the queue is all that is beyond its bound.
    rw [List.take_eq_take_iff]
    simp only [List.length_append, List.length_cons, List.length_reverse]
    omega

end

end HandleGuard.HandleTable
