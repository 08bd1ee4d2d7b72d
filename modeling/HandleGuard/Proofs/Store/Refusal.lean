import HandleGuard.Proofs.Store.References
import Mathlib.Data.List.Basic

/-!
# Which calls the integer store refuses

The store looks at little: what it refuses is null, an operation that does not exist, or the wrong
number of arguments. For calls whose other handles all have objects this is everything, apart from
the end of its addresses, and `Request.refusal` tells it from the call alone.

* `compute_refusal`, `respond_refusal`   the store refuses these calls and no others
* `Request.refusal_withHandles`          handles are told apart from null, and not from each other
-/

namespace HandleGuard

/-- The number of arguments of an operation, if the operation exists. -/
def ObjectStore.arity? (op : OpId) : Option Nat :=
  if op = addOp then some 2 else if op = negOp then some 1 else none

namespace Request

/-- Why a call fails whose handles are all null or open. To close null is not refused, as a debug
context does not pass it on. -/
def refusal : Request → Option StoreError
  | dup h | asInt h => if h = .null then some (.noObject .null) else none
  | invoke op args =>
    match ObjectStore.arity? op with
    | none => some (.unknownOp op)
    | some n =>
      if args.length ≠ n then some (.wrongArity op n args.length)
      else if .null ∈ args then some (.noObject .null)
      else none
  | close _ | fromInt _ | same .. => none

/-- Given the right number of arguments, an operation is refused for null only. -/
theorem refusal_of_arity {op : OpId} {args : List Handle}
    (harity : ObjectStore.arity? op = some args.length) :
    (invoke op args).refusal = if .null ∈ args then some (.noObject .null) else none := by
  rw [refusal, harity]
  exact if_neg (not_not_intro rfl)

/-- The handles of a call may be replaced by others as long as null is among both or neither. -/
theorem refusal_withHandles {r : Request} {us : List Handle}
    (hlength : us.length = r.handles.length) (hnull : .null ∈ us ↔ .null ∈ r.handles) :
    (r.withHandles us).refusal = r.refusal := by
  cases r with
  | invoke op args =>
    simp only [handles] at hlength hnull
    simp only [withHandles, refusal, hlength, hnull]
  | dup h | asInt h =>
    obtain ⟨u, rfl⟩ := List.length_eq_one_iff.mp hlength
    simp only [handles, List.mem_singleton, eq_comm] at hnull
    simp only [withHandles, refusal, hnull]
  | fromInt v =>
    rw [List.length_eq_zero_iff.mp hlength]
    rfl
  | close h =>
    obtain ⟨u, rfl⟩ := List.length_eq_one_iff.mp hlength
    rfl
  | same a b =>
    obtain ⟨u, v, rfl⟩ := List.length_eq_two.mp hlength
    rfl

end Request

namespace ObjectStore

variable {s : ObjectStore} (hs : s.WellFormed)

include hs

theorem object?_null : s.object? .null = none := by
  rw [← Option.not_isSome_iff_eq_none, Option.isSome_iff_exists]
  rintro ⟨o, ho⟩
  exact ne_null_of_object? hs ho rfl

theorem value_null : s.value .null = .error (.noObject .null) := by
  rw [value_eq, object?_null hs]

/-- An operation on null and on objects computes a value, or fails as the call tells. -/
theorem compute_refusal (op : OpId) (args : List Handle)
    (hargs : ∀ u ∈ args, u ≠ .null → ∃ o, s.object? u = some o) :
    match (Request.invoke op args).refusal with
    | some e => s.compute op args = .error e
    | none => ∃ v, s.compute op args = .ok v := by
  have hvalue : ∀ u ∈ args, (u = .null ∧ s.value u = .error (.noObject .null)) ∨
      (u ≠ .null ∧ ∃ v, s.value u = .ok v) := by
    intro u hu
    by_cases hnull : u = .null
    · exact .inl ⟨hnull, hnull ▸ value_null hs⟩
    · obtain ⟨o, ho⟩ := hargs u hu hnull
      exact .inr ⟨hnull, o.value, by rw [value_eq, ho]⟩
  by_cases hadd : op = addOp
  · subst hadd
    obtain _ | ⟨a, _ | ⟨b, _ | ⟨c, args⟩⟩⟩ := args
    · rfl
    · rfl
    · rw [Request.refusal_of_arity rfl, compute, if_pos rfl]
      -- The values are read from left to right, and whichever is missing, it is that of null.
      obtain ⟨rfl, ha⟩ | ⟨hna, x, ha⟩ := hvalue a (by simp)
      · rw [if_pos (by simp), ha]
        rfl
      · obtain ⟨rfl, hb⟩ | ⟨hnb, y, hb⟩ := hvalue b (by simp)
        · rw [if_pos (by simp), ha, hb]
          rfl
        · rw [if_neg (by simp [hna.symm, hnb.symm]), ha, hb]
          exact ⟨_, rfl⟩
    · rfl
  · by_cases hneg : op = negOp
    · subst hneg
      obtain _ | ⟨a, _ | ⟨b, args⟩⟩ := args
      · rfl
      · rw [Request.refusal_of_arity rfl, compute, if_neg hadd, if_pos rfl]
        obtain ⟨rfl, ha⟩ | ⟨hna, x, ha⟩ := hvalue a (by simp)
        · rw [if_pos (by simp), ha]
          rfl
        · rw [if_neg (by simp [hna.symm]), ha]
          exact ⟨_, rfl⟩
      · rfl
    · unfold Request.refusal compute arity?
      simp only [if_neg hadd, if_neg hneg]

/-- The store refuses a call on null and on objects as the call tells. Otherwise it answers, as long
as it has addresses left. -/
theorem respond_refusal (hroom : s.objects.size + 1 < Numeral.wordLimit) {r : Request}
    (hclose : ∀ h, r ≠ .close h)
    (hargs : ∀ u ∈ r.handles, u ≠ .null → ∃ o, s.object? u = some o) :
    match r.refusal with
    | some e => respond r s = (.error e.toCallError, s.counted)
    | none => ∃ reply s', respond r s = (.ok reply, s') := by
  have hnew : ∀ v, ∃ reply s', respond (.fromInt v) s = (.ok reply, s') := by
    intro v
    obtain ⟨h, s', hres, -⟩ | ⟨-, hfull⟩ := respond_fromInt hs v
    · exact ⟨_, s', hres⟩
    · have hlive := s.liveObjects_le_size
      omega
  cases r with
  | close h => exact absurd rfl (hclose h)
  | fromInt v => exact hnew v
  | same a b => exact ⟨_, _, respond_same a b s⟩
  | dup h =>
    by_cases hnull : h = .null
    · subst hnull
      exact (respond_noObject (object?_null hs)).1
    · obtain ⟨o, ho⟩ := hargs h List.mem_cons_self hnull
      obtain ⟨s', hres, -⟩ := respond_dup hs ho
      rw [Request.refusal, if_neg hnull]
      exact ⟨_, s', hres⟩
  | asInt h =>
    have hres := respond_asInt s h
    by_cases hnull : h = .null
    · subst hnull
      rw [value_null hs] at hres
      exact hres
    · obtain ⟨o, ho⟩ := hargs h List.mem_cons_self hnull
      rw [value_eq, ho] at hres
      rw [Request.refusal, if_neg hnull]
      exact ⟨_, _, hres⟩
  | invoke op args =>
    have hcompute := compute_refusal hs op args hargs
    rw [respond_invoke]
    cases hrefusal : (Request.invoke op args).refusal with
    | some e =>
      rw [hrefusal] at hcompute
      rw [hcompute]
    | none =>
      rw [hrefusal] at hcompute
      obtain ⟨v, hv⟩ := hcompute
      rw [hv]
      exact hnew v

end ObjectStore

end HandleGuard
