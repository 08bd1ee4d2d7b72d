import HandleGuard.Proofs.Table.Run

/-!
# The bits of a handle

`fields?` takes a word apart by division. On the bits of the word that is a mask for the slot field,
a shift and a mask for the tag, and a shift for the generation, and each field has the bits that it
was packed with, whatever stands in the others (`toNat_slotBits_encode` and the two lemmas after it).

`encoding_faithful` puts together how values and fields determine each other. A table never has a
slot whose number, plus one, reaches into the bits of the tag.
-/

namespace HandleGuard.Handle

/-- The bits of the slot field, which holds a slot number plus one. -/
def slotBits (h : Handle) : UInt64 := h.raw &&& 0xfffffff

/-- The bits of the tag. -/
def tagBits (h : Handle) : UInt64 := h.raw >>> 28 &&& 0xff

/-- The bits of the generation. -/
def generationBits (h : Handle) : UInt64 := h.raw >>> 36

/-! ### Bits as quotients and remainders -/

theorem toNat_slotBits (h : Handle) : h.slotBits.toNat = h.raw.toNat % slotLimit := by
  rw [slotBits, UInt64.toNat_and]
  exact Nat.and_two_pow_sub_one_eq_mod h.raw.toNat 28

theorem toNat_tagBits (h : Handle) : h.tagBits.toNat = h.raw.toNat / slotLimit % tagLimit := by
  have hshift : (h.raw >>> 28).toNat = h.raw.toNat / slotLimit := by
    rw [UInt64.toNat_shiftRight]
    exact Nat.shiftRight_eq_div_pow h.raw.toNat 28
  rw [tagBits, UInt64.toNat_and, hshift]
  exact Nat.and_two_pow_sub_one_eq_mod (h.raw.toNat / slotLimit) 8

theorem toNat_generationBits (h : Handle) :
    h.generationBits.toNat = h.raw.toNat / (slotLimit * tagLimit) := by
  rw [generationBits, UInt64.toNat_shiftRight]
  exact Nat.shiftRight_eq_div_pow h.raw.toNat 36

theorem slotBits_eq_zero_iff {h : Handle} : h.slotBits = 0 ↔ h.fields? = none := by
  rw [fields?_eq_none_iff, ← toNat_slotBits, ← UInt64.toNat_inj]
  rfl

/-- Unpacking reads the three fields off the bits. -/
theorem fields?_eq_bits (h : Handle) :
    h.fields? = if h.slotBits = 0 then none
      else some ⟨h.slotBits.toNat - 1, h.tagBits.toNat, h.generationBits.toNat⟩ := by
  by_cases hzero : h.slotBits = 0
  · rw [if_pos hzero, slotBits_eq_zero_iff.mp hzero]
  · have hlow : h.raw.toNat % slotLimit ≠ 0 := by
      rwa [Ne, ← fields?_eq_none_iff, ← slotBits_eq_zero_iff]
    rw [if_neg hzero, toNat_slotBits, toNat_tagBits, toNat_generationBits]
    simp only [fields?, if_neg hlow]

/-! ### The bits of packed fields -/

section

variable {f : Fields} (hslot : f.slot < maxSlots)

include hslot

theorem slotBits_encode_ne_zero : f.encode.slotBits ≠ 0 := by
  rw [Ne, slotBits_eq_zero_iff, fields?_encode f hslot]
  simp

/-- The bits of packed fields, all at once: what `fields?` finds. -/
private theorem bits_encode :
    f.encode.slotBits.toNat - 1 = f.slot ∧ f.encode.tagBits.toNat = f.tag % tagLimit ∧
      f.encode.generationBits.toNat = f.generation % generationLimit := by
  have hfields := fields?_encode f hslot
  rw [fields?_eq_bits, if_neg (slotBits_encode_ne_zero hslot), Option.some.injEq,
    Fields.mk.injEq] at hfields
  exact hfields

theorem toNat_slotBits_encode : f.encode.slotBits.toNat = f.slot + 1 := by
  have hpos : f.encode.slotBits.toNat ≠ 0 := by
    rw [← UInt64.toNat_zero, Ne, UInt64.toNat_inj]
    exact slotBits_encode_ne_zero hslot
  have hbits := (bits_encode hslot).1
  omega

theorem toNat_tagBits_encode : f.encode.tagBits.toNat = f.tag % tagLimit :=
  (bits_encode hslot).2.1

theorem toNat_generationBits_encode :
    f.encode.generationBits.toNat = f.generation % generationLimit :=
  (bits_encode hslot).2.2

end

/-- Values and fields determine each other. A value has no fields iff its low 28 bits are zero. All
other values are packed from the fields that they have, which fit their widths. Packed fields are
never null and unpack to themselves, tag and generation cut to their widths, so that nothing else
makes two packed handles equal. The number of a slot that a table has, plus one, stays within the
slot field, and leaves tag and generation alone. -/
theorem encoding_faithful :
    (∀ h : Handle, h.fields? = none ↔ h.raw &&& 0xfffffff = 0) ∧
    (∀ (h : Handle) (f : Fields), h.fields? = some f →
      f.slot < maxSlots ∧ f.tag < tagLimit ∧ f.generation < generationLimit ∧ f.encode = h) ∧
    (∀ f : Fields, f.slot < maxSlots → f.encode ≠ null ∧
      f.encode.fields? = some ⟨f.slot, f.tag % tagLimit, f.generation % generationLimit⟩) ∧
    (∀ f g : Fields, f.slot < maxSlots → g.slot < maxSlots →
      (f.encode = g.encode ↔ f.slot = g.slot ∧ f.tag % tagLimit = g.tag % tagLimit ∧
        f.generation % generationLimit = g.generation % generationLimit)) ∧
    (∀ (tag closedQueueMax capacity : Nat) (ops : List TableOp) (f : Fields),
      f.slot < ((HandleTable.withCapacity tag closedQueueMax capacity).run ops).slots.size →
      f.slot + 1 < slotLimit ∧ f.encode.slotBits.toNat = f.slot + 1 ∧
        f.encode.tagBits.toNat = f.tag % tagLimit ∧
        f.encode.generationBits.toNat = f.generation % generationLimit) := by
  refine ⟨fun h => slotBits_eq_zero_iff.symm, ?_, ?_, ?_, ?_⟩
  · intro h f hf
    obtain ⟨hslot, htag, hgeneration⟩ := fields?_bounds hf
    exact ⟨hslot, htag, hgeneration, encode_of_fields? hf⟩
  · intro f hslot
    exact ⟨encode_ne_null f hslot, fields?_encode f hslot⟩
  · intro f g hf hg
    exact encode_eq_iff hf hg
  · intro tag closedQueueMax capacity ops f hf
    have hstart := HandleTable.withCapacity_wellFormed tag closedQueueMax capacity
    have ht := HandleTable.run_wellFormed hstart ops
    have hsize := ht.size_le
    have hcapacity := ht.capacity_le
    have hslot : f.slot < maxSlots := by omega
    refine ⟨?_, toNat_slotBits_encode hslot, toNat_tagBits_encode hslot,
      toNat_generationBits_encode hslot⟩
    rw [maxSlots] at hslot
    omega

/-- All fields at their limits, with a tag and a generation that are wider than their fields: packed,
they are the value whose bits are all one, and that value has the fields cut to their widths. A table
with one slot numbers it zero, under any tag. -/
theorem encoding_faithful_at_limits :
    let wide : Fields := ⟨0xffffffe, 0xffffffffffffffff, 0xffffffffffffffff⟩
    let top : Handle := ⟨0xffffffffffffffff⟩
    wide.slot < maxSlots ∧ wide.encode = top ∧ wide.encode ≠ null ∧
      wide.encode.fields? = some ⟨0xffffffe, 0xff, 0xfffffff⟩ ∧
      (⟨0xfffffffff0000000⟩ : Handle).fields? = none ∧
      (Fields.encode ⟨0, 0x1ff, 5⟩).slotBits.toNat = 1 ∧
      (Fields.encode ⟨0, 0x1ff, 5⟩).tagBits.toNat = 0xff := by
  intro wide top
  obtain ⟨hnone, hsome, hpacked, hsame, htable⟩ := encoding_faithful
  have hslot : wide.slot < maxSlots := by decide
  have htop : top.fields? = some ⟨0xffffffe, 0xff, 0xfffffff⟩ := by decide
  obtain ⟨hcut, -, -, hback⟩ := hsome top _ htop
  have hwide : wide.encode = top := ((hsame wide _ hslot hcut).mpr (by decide)).trans hback
  obtain ⟨hnull, hfields⟩ := hpacked wide hslot
  obtain ⟨-, hlow, htag, -⟩ := htable 3 1 1 [.openHandle ⟨7⟩] ⟨0, 0x1ff, 5⟩ (by decide)
  exact ⟨hslot, hwide, hnull, hfields.trans (by decide), (hnone _).mpr (by decide), hlow, htag⟩

/-- With one slot more the slot field would run over into the tag. -/
example : (Fields.encode ⟨maxSlots, 0, 0⟩).fields? = none := by decide

end HandleGuard.Handle
