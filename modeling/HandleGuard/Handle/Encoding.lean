import HandleGuard.Handle

/-!
# The layout of debug handles

A debug handle packs three fields into its 64 bits, low bits first: the number of a table slot plus
one (28 bits), the tag of the context that issued it (8 bits), and the generation of the slot
(28 bits). The slot field of an issued handle is never zero, so no issued handle is null.
-/

namespace HandleGuard.Handle

/-- The values of a slot field, and how far its bits reach. A table has fewer slots than this many:
a slot number plus one fits the field. -/
def slotLimit : Nat := 0x10000000

/-- The most slots one table can address. -/
def maxSlots : Nat := slotLimit - 1

/-- Tags are counted modulo this number, that of the values of eight bits. -/
def tagLimit : Nat := 0x100

/-- Generations are counted modulo this number, that of the values of 28 bits. -/
def generationLimit : Nat := 0x10000000

/-- What a debug handle says: which slot, of which context, in which of its lives. -/
structure Fields where
  slot : Nat
  tag : Nat
  generation : Nat
deriving DecidableEq, Repr

/-- Packs the fields; tag and generation are cut to their widths. -/
def Fields.encode (f : Fields) : Handle :=
  ⟨UInt64.ofNat ((f.generation % generationLimit) <<< 36 |||
    (f.tag % tagLimit) <<< 28 ||| (f.slot + 1))⟩

/-- The fields of `h`, unless its slot field is zero. -/
def fields? (h : Handle) : Option Fields :=
  let low := h.raw.toNat % slotLimit
  if low = 0 then none
  else some ⟨low - 1, h.raw.toNat / slotLimit % tagLimit, h.raw.toNat / (slotLimit * tagLimit)⟩

/-- The generation a slot moves to when its handle is retired. -/
def nextGeneration (g : Nat) : Nat := (g + 1) % generationLimit

/-- The null handle has no fields. -/
@[simp] theorem fields?_null : null.fields? = none := rfl

end HandleGuard.Handle
