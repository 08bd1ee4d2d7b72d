import HandleGuard.Text.Numeral

/-!
# Handles and identities

A handle is a machine word that stands for an object of some context. Universal contexts and debug
contexts share the type: the context a handle is passed to decides what it means. Contexts have an
identity of the same size, and operation codes are half as wide.
-/

namespace HandleGuard

/-- A token for an object of a context. -/
structure Handle where
  raw : UInt64
deriving DecidableEq, Inhabited, Repr

namespace Handle

/-- The handle that stands for no object. -/
def null : Handle := ⟨0⟩

/-- Whether `h` stands for no object. -/
def isNull (h : Handle) : Bool := h.raw == 0

/-- The handle as messages show it. -/
def text (h : Handle) : String := "0x" ++ Numeral.hexadecimal h.raw.toNat

@[simp] theorem isNull_null : null.isNull = true := rfl

theorem isNull_iff {h : Handle} : h.isNull = true ↔ h = null := by
  cases h; simp [isNull, null]

theorem isNull_eq_false_iff {h : Handle} : h.isNull = false ↔ h ≠ null := by
  rw [← Bool.not_eq_true, isNull_iff]

end Handle

/-- What tells one context from another. -/
structure ContextId where
  value : UInt64
deriving DecidableEq, Inhabited, Repr

namespace ContextId

/-- The identity of a context that is known by where it lies in memory. -/
def ofAddress (address : UInt64) : ContextId := ⟨address⟩

/-- The identity as messages show it. -/
def text (c : ContextId) : String := "ctx#" ++ Numeral.hexadecimal c.value.toNat

end ContextId

/-- The code of an operation that a context is invoked with. -/
structure OpId where
  code : UInt32
deriving DecidableEq, Inhabited, Repr

end HandleGuard
