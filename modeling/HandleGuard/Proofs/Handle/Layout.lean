import HandleGuard.Handle.Encoding

/-!
# The fields of a handle do not overlap

Packing and unpacking are inverse to each other where a slot number fits its field. The proofs read
a handle as the number `generation * 2 ^ 36 + tag * 2 ^ 28 + (slot + 1)`.

* `fields?_encode`      unpacking gives back the slot, and tag and generation cut to their widths
* `encode_of_fields?`   packing the fields of a handle gives the handle back
* `encode_eq_iff`       two packed handles are equal iff slot, cut tag and cut generation are
-/

namespace HandleGuard.Handle

/-- The packed fields as a sum: no field reaches into the next one. -/
theorem toNat_encode (f : Fields) (hslot : f.slot < maxSlots) :
    f.encode.raw.toNat = f.generation % generationLimit * (slotLimit * tagLimit) +
      f.tag % tagLimit * slotLimit + (f.slot + 1) := by
  have htag : f.tag % tagLimit < tagLimit := Nat.mod_lt _ (by decide)
  have hgen : f.generation % generationLimit < generationLimit := Nat.mod_lt _ (by decide)
  simp only [maxSlots, slotLimit, tagLimit, generationLimit] at *
  -- The bits of each field start where those of the fields below end, so an or is a sum.
  have hlow : (f.tag % 0x100) <<< 28 + (f.slot + 1) < 2 ^ 36 := by rw [Nat.shiftLeft_eq]; omega
  simp only [Fields.encode, tagLimit, generationLimit, Nat.or_assoc]
  rw [← Nat.shiftLeft_add_eq_or_of_lt (by omega : f.slot + 1 < 2 ^ 28),
    ← Nat.shiftLeft_add_eq_or_of_lt hlow, UInt64.toNat_ofNat', Nat.shiftLeft_eq, Nat.shiftLeft_eq]
  omega

/-- Unpacking gives back the slot, and tag and generation cut to their widths. -/
theorem fields?_encode (f : Fields) (hslot : f.slot < maxSlots) :
    f.encode.fields? = some ⟨f.slot, f.tag % tagLimit, f.generation % generationLimit⟩ := by
  have htag : f.tag % tagLimit < tagLimit := Nat.mod_lt _ (by decide)
  have hsum := toNat_encode f hslot
  have hlow : f.encode.raw.toNat % slotLimit = f.slot + 1 := by
    simp only [maxSlots, slotLimit, tagLimit, generationLimit] at *; omega
  have hmid : f.encode.raw.toNat / slotLimit % tagLimit = f.tag % tagLimit := by
    simp only [maxSlots, slotLimit, tagLimit, generationLimit] at *; omega
  have hhigh : f.encode.raw.toNat / (slotLimit * tagLimit) = f.generation % generationLimit := by
    simp only [maxSlots, slotLimit, tagLimit, generationLimit] at *; omega
  simp only [fields?, hlow, hmid, hhigh, Nat.add_one_ne_zero, ↓reduceIte, Nat.add_sub_cancel]

/-- A packed handle is not null. -/
theorem encode_ne_null (f : Fields) (hslot : f.slot < maxSlots) : f.encode ≠ null := by
  intro h
  have := fields?_encode f hslot
  -- Null has no fields, but a packed handle has.
  rw [h, fields?_null] at this
  exact nomatch this

/-- What unpacking yields fits the three widths. -/
theorem fields?_bounds {h : Handle} {f : Fields} (hf : h.fields? = some f) :
    f.slot < maxSlots ∧ f.tag < tagLimit ∧ f.generation < generationLimit := by
  have hlt := h.raw.toNat_lt
  simp only [fields?] at hf
  split at hf
  · exact nomatch hf
  · simp only [Option.some.injEq] at hf
    subst hf
    simp only [maxSlots, slotLimit, tagLimit, generationLimit] at *
    omega

/-- Packing the fields of a handle gives the handle back. -/
theorem encode_of_fields? {h : Handle} {f : Fields} (hf : h.fields? = some f) : f.encode = h := by
  obtain ⟨hslot, htag, hgen⟩ := fields?_bounds hf
  -- Both words are the same sum: quotients and remainders of one number.
  suffices f.encode.raw = h.raw from congrArg mk this
  rw [← UInt64.toNat_inj, toNat_encode f hslot, Nat.mod_eq_of_lt htag, Nat.mod_eq_of_lt hgen]
  simp only [fields?] at hf
  split at hf
  · exact nomatch hf
  · simp only [Option.some.injEq] at hf
    subst hf
    simp only [slotLimit, tagLimit] at *
    omega

/-- Two packed handles are equal iff slot, cut tag and cut generation are. -/
theorem encode_eq_iff {f g : Fields} (hf : f.slot < maxSlots) (hg : g.slot < maxSlots) :
    f.encode = g.encode ↔ f.slot = g.slot ∧ f.tag % tagLimit = g.tag % tagLimit ∧
      f.generation % generationLimit = g.generation % generationLimit := by
  constructor
  · intro h
    have := fields?_encode f hf
    rw [h, fields?_encode g hg] at this
    simp only [Option.some.injEq, Fields.mk.injEq] at this
    exact ⟨this.1.symm, this.2.1.symm, this.2.2.symm⟩
  · intro ⟨hslot, htag, hgen⟩
    simp only [Fields.encode, hslot, htag, hgen]

/-- A handle other than the null handle does not test as null. -/
theorem not_isNull {h : Handle} (hh : h ≠ null) : ¬h.isNull = true := by
  rwa [isNull_iff]

/-- A value has no fields iff its low 28 bits are zero. -/
theorem fields?_eq_none_iff {h : Handle} : h.fields? = none ↔ h.raw.toNat % slotLimit = 0 := by
  simp only [fields?]
  split <;> simp [*]

/-- The slot number that a value holds, unless its slot field is zero. -/
def slot? (h : Handle) : Option Nat := h.fields?.map Fields.slot

/-- The slot number is what the slot field holds, less one. -/
theorem slot?_eq_some_iff {h : Handle} {i : Nat} :
    h.slot? = some i ↔ h.raw.toNat % slotLimit = i + 1 := by
  rw [slot?, Option.map_eq_some_iff]
  simp only [fields?]
  by_cases hlow : h.raw.toNat % slotLimit = 0
  · simp [hlow]
  · rw [if_neg hlow]
    constructor
    · rintro ⟨f, hf, rfl⟩
      cases hf
      show _ = h.raw.toNat % slotLimit - 1 + 1
      omega
    · intro hi
      refine ⟨_, rfl, ?_⟩
      show h.raw.toNat % slotLimit - 1 = i
      omega

/-- The slot number of a value is one that a table can have. -/
theorem lt_of_slot? {h : Handle} {i : Nat} (hi : h.slot? = some i) : i < maxSlots := by
  obtain ⟨f, hf, rfl⟩ := Option.map_eq_some_iff.mp hi
  exact (fields?_bounds hf).1

end HandleGuard.Handle
