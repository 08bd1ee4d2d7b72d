import HandleGuard.Config

/-!
# Registries of debug contexts

A registry remembers which debug context serves which universal context, and says whether another
universal context may still be served. Universal contexts are told apart by keys of a type `κ`, and
debug contexts by number.
-/

namespace HandleGuard

/-- The debug contexts in service, each under the universal context it serves. -/
structure Registry (κ : Type) where
  config : Config
  /-- Latest binding first. -/
  bindings : List (κ × Nat)
deriving DecidableEq, Repr

/-- What a registry says when a universal context asks to be served. -/
inductive Admission (κ : Type) where
  /-- Debug context `i` serves it already. -/
  | bound (i : Nat)
  /-- It may be served. -/
  | free
  /-- It may not, because of this other one. -/
  | refused (bound : κ)
deriving DecidableEq, Repr

namespace Registry

variable {κ : Type}

/-- A registry without bindings. -/
def new (config : Config) : Registry κ := ⟨config, []⟩

/-- How many universal contexts are served. -/
def size (r : Registry κ) : Nat := r.bindings.length

/-- Whether none is served. -/
def isEmpty (r : Registry κ) : Bool := r.bindings.isEmpty

variable [DecidableEq κ]

/-- The debug context that serves `u`. -/
def find? (r : Registry κ) (u : κ) : Option Nat := r.bindings.lookup u

/-- The universal context that keeps `u` from being served: under the singleton policy, any other
one that is served. -/
def conflict? (r : Registry κ) (u : κ) : Option κ :=
  match r.config.bindPolicy with
  | .perContext => none
  | .singleton => (r.bindings.find? (·.1 ≠ u)).map Prod.fst

/-- What the registry says when `u` asks to be served. -/
def admission (r : Registry κ) (u : κ) : Admission κ :=
  match r.find? u with
  | some i => .bound i
  | none =>
    match r.conflict? u with
    | some bound => .refused bound
    | none => .free

/-- Puts debug context `i` in service for `u`. -/
def insert (r : Registry κ) (u : κ) (i : Nat) : Registry κ :=
  { r with bindings := (u, i) :: r.bindings }

variable {r : Registry κ} {u : κ} {i : Nat}

theorem admission_of_find? (h : r.find? u = some i) : r.admission u = .bound i := by
  rw [admission, h]

theorem find?_eq_none_iff : r.find? u = none ↔ ∀ p ∈ r.bindings, p.1 ≠ u := by
  rw [find?, List.lookup_eq_none_iff]
  constructor
  · exact fun h p hp => (bne_iff_ne.mp (h p hp)).symm
  · exact fun h p hp => bne_iff_ne.mpr (h p hp).symm

theorem find?_of_bound (h : r.admission u = .bound i) : r.find? u = some i := by
  unfold admission at h
  split at h
  · rename_i j hfind
    cases h
    exact hfind
  · split at h <;> cases h

theorem find?_of_free (h : r.admission u = .free) : r.find? u = none := by
  cases hfind : r.find? u with
  | none => rfl
  | some i => exact absurd ((admission_of_find? hfind).symm.trans h) (by simp)

theorem find?_insert (r : Registry κ) (u v : κ) (i : Nat) :
    (r.insert u i).find? v = if v = u then some i else r.find? v := by
  rw [find?, insert, List.lookup_cons]
  by_cases h : v = u
  · rw [if_pos h, beq_iff_eq.mpr h]
  · rw [if_neg h, beq_eq_false_iff_ne.mpr h]
    rfl

end Registry

end HandleGuard
