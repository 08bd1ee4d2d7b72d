import HandleGuard.Table
import HandleGuard.Proofs.Handle.Layout
import HandleGuard.Proofs.Lists

/-!
# Well-formed handle tables

A table keeps four accounts of the same slots: the slots themselves, the free list, the closed queue
and the count of open handles. `HandleTable.WellFormed` says how they agree. In a well-formed table
a value means something iff some slot holds an entry that has exactly this handle
(`lookup_eq_ok_iff`), and the views of a table follow from that:

* `resolve_eq_ok_iff`     a handle resolves iff `openHandles` lists it
* `mem_closedHandles_iff` a handle is in `closedHandles` iff its slot holds it as a closed one
* `openHandles_set`       how `openHandles` changes when one slot does
-/

namespace HandleGuard

/-- A slot's generation fits a handle, and no handle is issued for null. -/
def Slot.Valid : Slot → Prop
  | free g => g < Handle.generationLimit
  | occupied e => e.generation < Handle.generationLimit ∧ e.underlying ≠ .null

namespace HandleTable

/-! ### Replacing one slot -/

/-- Replacing a slot that exists changes this slot and no other. -/
theorem getElem?_set {slots : Array Slot} {i : Nat} {s : Slot} (hi : slots[i]? = some s)
    (s' : Slot) (j : Nat) :
    (slots.setIfInBounds i s')[j]? = if j = i then some s' else slots[j]? := by
  have hlt : i < slots.size := (Array.getElem?_eq_some_iff.mp hi).1
  rw [Array.getElem?_setIfInBounds, if_pos hlt]
  simp only [eq_comm]

/-- Replacing a slot by a valid one keeps all slots valid. -/
theorem valid_set {slots : Array Slot} {i : Nat} {s : Slot}
    (hvalid : ∀ {j : Nat} {s : Slot}, slots[j]? = some s → s.Valid) (hi : slots[i]? = some s)
    (s' : Slot) (hs' : s'.Valid) {j : Nat} {s'' : Slot} (hj : (slots.setIfInBounds i s')[j]? = some s'') :
    s''.Valid := by
  rw [getElem?_set hi] at hj
  split at hj
  · exact Option.some.inj hj ▸ hs'
  · exact hvalid hj

/-! ### The invariant -/

/-- The four accounts of a table agree. -/
structure WellFormed (t : HandleTable) : Prop where
  tag_lt : t.tag < Handle.tagLimit
  capacity_le : t.capacity ≤ Handle.maxSlots
  size_le : t.slots.size ≤ t.capacity
  valid : ∀ {i : Nat} {s : Slot}, t.slots[i]? = some s → s.Valid
  free_nodup : t.free.Nodup
  mem_free : ∀ i, i ∈ t.free ↔ ∃ g, t.slots[i]? = some (.free g)
  closed_nodup : t.closed.toList.Nodup
  mem_closed : ∀ i, i ∈ t.closed.toList ↔ ∃ e, t.slots[i]? = some (.occupied e) ∧ e.alive = false
  openCount_eq : t.openCount = (t.openHandles 0).length

/-- A new table is well-formed. -/
theorem withCapacity_wellFormed (tag closedQueueMax capacity : Nat) :
    (withCapacity tag closedQueueMax capacity).WellFormed where
  tag_lt := Nat.mod_lt _ (by decide)
  capacity_le := Nat.min_le_right _ _
  size_le := Nat.zero_le _
  valid := by intro i s h; simp [withCapacity] at h
  free_nodup := List.nodup_nil
  mem_free := by intro i; simp [withCapacity]
  closed_nodup := List.nodup_nil
  mem_closed := by intro i; simp [withCapacity]
  openCount_eq := rfl

/-! ### Open and closed handles, slot by slot -/

variable {t : HandleTable}

/-- What slot `i` contributes to the open handles when it holds `s`. -/
def openAt (t : HandleTable) (i : Nat) : Slot → Option OpenHandle
  | .occupied e =>
    if e.alive then some ⟨t.handleAt i e.generation, e.underlying, e.openedIn⟩ else none
  | .free _ => none

@[simp] theorem openAt_free (i g : Nat) : t.openAt i (.free g) = none := rfl

theorem openAt_open (i : Nat) {e : HandleEntry} (he : e.alive = true) :
    t.openAt i (.occupied e) = some ⟨t.handleAt i e.generation, e.underlying, e.openedIn⟩ := by
  simp [openAt, he]

theorem openAt_closed (i : Nat) {e : HandleEntry} (he : e.alive = false) :
    t.openAt i (.occupied e) = none := by
  simp [openAt, he]

/-- What a slot contributes has a handle of this slot. -/
theorem handle_of_openAt {i : Nat} {s : Slot} {o : OpenHandle} (ho : t.openAt i s = some o) :
    ∃ g, o.handle = t.handleAt i g := by
  cases s with
  | free g => exact nomatch ho
  | occupied e =>
    simp only [openAt, Option.ite_none_right_eq_some, Option.some.injEq] at ho
    exact ⟨e.generation, by rw [← ho.2]⟩

theorem openAt_congr {t' : HandleTable} (htag : t'.tag = t.tag) : t'.openAt = t.openAt := by
  funext i s
  cases s <;> simp only [openAt, handleAt, htag]

theorem openHandles_eq (t : HandleTable) :
    t.openHandles 0 = t.slots.toList.zipIdx.filterMap fun p => t.openAt p.2 p.1 := by
  simp only [openHandles]
  congr 1
  funext ⟨s, i⟩
  cases s <;> simp [openAt]

/-- Replacing one slot exchanges what it contributes to the open handles. -/
theorem openHandles_set {i : Nat} {s : Slot} (hi : t.slots[i]? = some s) :
    ∃ rest, (t.openHandles 0).Perm ((t.openAt i s).toList ++ rest) ∧
      ∀ (t' : HandleTable) (s' : Slot), t'.tag = t.tag →
        t'.slots = t.slots.setIfInBounds i s' →
        (t'.openHandles 0).Perm ((t.openAt i s').toList ++ rest) := by
  rw [← Array.getElem?_toList] at hi
  obtain ⟨rest, hold, hnew⟩ := List.filterMap_zipIdx_set (fun p => t.openAt p.2 p.1) hi
  refine ⟨rest, by rwa [openHandles_eq], fun t' s' htag hslots => ?_⟩
  have := hnew s'
  rwa [openHandles_eq, hslots, Array.toList_setIfInBounds, openAt_congr htag]

/-- A slot added at the end adds what it contributes to the open handles. -/
theorem openHandles_push {t' : HandleTable} {s : Slot} (htag : t'.tag = t.tag)
    (hslots : t'.slots = t.slots.push s) :
    t'.openHandles 0 = t.openHandles 0 ++ (t.openAt t.slots.size s).toList := by
  rw [openHandles_eq, openHandles_eq, hslots, openAt_congr htag, Array.toList_push,
    List.zipIdx_append, List.filterMap_append]
  simp only [Array.length_toList, Nat.zero_add, List.zipIdx_cons, List.zipIdx_nil,
    List.filterMap_cons, List.filterMap_nil]
  cases t.openAt t.slots.size s <;> rfl

/-- An open handle is listed with what its slot says. -/
theorem mem_openHandles_iff {o : OpenHandle} :
    o ∈ t.openHandles 0 ↔ ∃ i e, t.slots[i]? = some (.occupied e) ∧ e.alive = true ∧
      o = ⟨t.handleAt i e.generation, e.underlying, e.openedIn⟩ := by
  simp only [openHandles_eq, List.mem_filterMap, Prod.exists, List.mem_zipIdx_iff_getElem?,
    Array.getElem?_toList]
  constructor
  · rintro ⟨s, i, hi, ho⟩
    cases s with
    | free g => exact nomatch ho
    | occupied e =>
      simp only [openAt, Option.ite_none_right_eq_some, Option.some.injEq] at ho
      exact ⟨i, e, hi, ho.1, ho.2.symm⟩
  · rintro ⟨i, e, hi, halive, rfl⟩
    exact ⟨.occupied e, i, hi, openAt_open i halive⟩

/-- Handles of different slots differ, and so do handles of different generations. -/
theorem handleAt_inj {i j : Nat} (hi : i < Handle.maxSlots) (hj : j < Handle.maxSlots) {g k : Nat}
    (h : t.handleAt i g = t.handleAt j k) :
    i = j ∧ g % Handle.generationLimit = k % Handle.generationLimit := by
  have := (Handle.encode_eq_iff (f := ⟨i, t.tag, g⟩) (g := ⟨j, t.tag, k⟩) hi hj).mp h
  exact ⟨this.1, this.2.2⟩

/-! ### What a well-formed table says about a value -/

section Views

variable (ht : t.WellFormed)

include ht

/-- The slots of a table have numbers that a handle can hold. -/
theorem WellFormed.slot_lt {i : Nat} {s : Slot} (hi : t.slots[i]? = some s) :
    i < Handle.maxSlots := by
  have := (Array.getElem?_eq_some_iff.mp hi).1
  have := ht.size_le
  have := ht.capacity_le
  omega

/-- The handle of a slot unpacks to the slot, the table's tag and the generation. -/
theorem WellFormed.fields?_handleAt {i : Nat} (hi : i < Handle.maxSlots) (g : Nat) :
    (t.handleAt i g).fields? = some ⟨i, t.tag, g % Handle.generationLimit⟩ := by
  rw [handleAt, Handle.fields?_encode _ hi, Nat.mod_eq_of_lt ht.tag_lt]

/-- A handle's slot is the one it was issued from. -/
theorem slot?_handleAt {i : Nat} (hi : i < Handle.maxSlots) (g : Nat) :
    (t.handleAt i g).slot? = some i := by
  rw [Handle.slot?, ht.fields?_handleAt hi]
  rfl

/-- A value means something to a table iff a slot holds an entry with exactly this handle. -/
theorem lookup_eq_ok_iff {h : Handle} {i : Nat} {e : HandleEntry} :
    t.lookup h = .ok (i, e) ↔
      t.slots[i]? = some (.occupied e) ∧ h = t.handleAt i e.generation := by
  constructor
  · intro hl
    simp only [lookup] at hl
    split at hl
    · exact nomatch hl
    · rename_i f hf
      split at hl
      · exact nomatch hl
      · rename_i htag
        split at hl
        · exact nomatch hl
        · exact nomatch hl
        · rename_i entry hi
          split at hl
          · exact nomatch hl
          · rename_i hgen
            simp only [Except.ok.injEq, Prod.mk.injEq] at hl
            -- Tag and generation passed their tests, so the fields are those of the slot's handle.
            obtain ⟨rfl, rfl⟩ := hl
            refine ⟨hi, ?_⟩
            rw [← Handle.encode_of_fields? hf, handleAt, Decidable.not_not.mp hgen,
              ← Decidable.not_not.mp htag]
  · rintro ⟨hi, rfl⟩
    -- The fields are unpacked cut to their widths, and a valid slot's generation fits.
    have hgen : e.generation < Handle.generationLimit := (ht.valid hi).1
    simp only [lookup, ht.fields?_handleAt (ht.slot_lt hi), hi, Nat.mod_eq_of_lt hgen, ne_eq,
      not_true_eq_false, ↓reduceIte]

/-- The handle that a slot holds is not null. -/
theorem WellFormed.handleAt_ne_null {i : Nat} {s : Slot} (hi : t.slots[i]? = some s) (g : Nat) :
    t.handleAt i g ≠ .null :=
  Handle.encode_ne_null _ (ht.slot_lt hi)

/-- The handle of a slot stands for the slot's entry. -/
theorem lookup_handleAt {i : Nat} {e : HandleEntry} (hi : t.slots[i]? = some (.occupied e)) :
    t.lookup (t.handleAt i e.generation) = .ok (i, e) :=
  (lookup_eq_ok_iff ht).mpr ⟨hi, rfl⟩

/-- A value resolves iff it is listed as open. -/
theorem resolve_eq_ok_iff {h u : Handle} (hh : h ≠ .null) :
    t.resolve h = .ok u ↔ ∃ o ∈ t.openHandles 0, o.handle = h ∧ o.underlying = u := by
  rw [resolve, if_neg (Handle.not_isNull hh)]
  constructor
  · intro hr
    split at hr
    · exact nomatch hr
    · rename_i i e hl
      split at hr
      · rename_i halive
        obtain ⟨hi, rfl⟩ := (lookup_eq_ok_iff ht).mp hl
        exact ⟨_, mem_openHandles_iff.mpr ⟨i, e, hi, halive, rfl⟩, rfl, Except.ok.inj hr⟩
      · exact nomatch hr
  · rintro ⟨o, ho, rfl, rfl⟩
    obtain ⟨i, e, hi, halive, rfl⟩ := mem_openHandles_iff.mp ho
    simp only [lookup_handleAt ht hi, halive, ↓reduceIte]

/-- A value is a remembered closed handle iff its slot holds it as closed. -/
theorem mem_closedHandles_iff {h : Handle} :
    h ∈ t.closedHandles ↔ ∃ i e, t.slots[i]? = some (.occupied e) ∧ e.alive = false ∧
      h = t.handleAt i e.generation := by
  simp only [closedHandles, List.mem_filterMap]
  constructor
  · rintro ⟨i, hi, hh⟩
    obtain ⟨e, he, hdead⟩ := (ht.mem_closed i).mp hi
    simp only [he, Option.some.injEq] at hh
    exact ⟨i, e, he, hdead, hh.symm⟩
  · rintro ⟨i, e, hi, hdead, rfl⟩
    exact ⟨i, (ht.mem_closed i).mpr ⟨e, hi, hdead⟩, by simp only [hi]⟩

/-- An open handle is not null. -/
theorem handle_ne_null_of_mem {o : OpenHandle} (ho : o ∈ t.openHandles 0) : o.handle ≠ .null := by
  obtain ⟨i, e, hi, -, rfl⟩ := mem_openHandles_iff.mp ho
  exact ht.handleAt_ne_null hi _

/-- An open handle does not stand for null. -/
theorem underlying_ne_null_of_mem {o : OpenHandle} (ho : o ∈ t.openHandles 0) :
    o.underlying ≠ .null := by
  obtain ⟨i, e, hi, -, rfl⟩ := mem_openHandles_iff.mp ho
  exact (ht.valid hi).2

/-- No handle is open twice. -/
theorem nodup_openHandles : ((t.openHandles 0).map OpenHandle.handle).Nodup := by
  rw [openHandles_eq, List.map_filterMap]
  -- The handle of a slot tells the slot, so no two slots contribute the same one.
  refine List.nodup_filterMap_zipIdx _ fun {i j s s' h} hi hj hh hh' => ?_
  rw [Array.getElem?_toList] at hi hj
  obtain ⟨o, ho, rfl⟩ := Option.map_eq_some_iff.mp hh
  obtain ⟨o', ho', heq⟩ := Option.map_eq_some_iff.mp hh'
  obtain ⟨g, hg⟩ := handle_of_openAt ho
  obtain ⟨k, hk⟩ := handle_of_openAt ho'
  exact (handleAt_inj (ht.slot_lt hi) (ht.slot_lt hj) (hg.symm.trans (heq.symm.trans hk))).1

/-- There are no more open handles than slots. -/
theorem openCount_le_size : t.openCount ≤ t.slots.size := by
  rw [ht.openCount_eq, openHandles_eq]
  refine Nat.le_trans (List.length_filterMap_le _ _) ?_
  simp

end Views

end HandleTable

end HandleGuard
