/-!
# First-in, first-out queues

`Fifo α` is a queue kept as two lists, so that adding at the end and removing at the front both
take constant time on average. The view `toList` has the elements oldest first, and the lemmas say
what each operation does to it:

* `toList_push`      `(q.push a).toList = q.toList ++ [a]`
* `toList_of_pop?`   if `q.pop? = some (a, r)` then `q.toList = a :: r.toList`
* `size_eq_length`   `q.size = q.toList.length`
-/

namespace HandleGuard

/-- A queue: `front` is its oldest part, oldest first, and `back` the rest, newest first. -/
structure Fifo (α : Type) where
  front : List α
  back : List α
  size : Nat
  size_eq : size = front.length + back.length
deriving DecidableEq

namespace Fifo

variable {α : Type}

/-- The queue without elements. -/
def empty : Fifo α := ⟨[], [], 0, rfl⟩

instance : Inhabited (Fifo α) := ⟨empty⟩

/-- The elements, oldest first. -/
def toList (q : Fifo α) : List α := q.front ++ q.back.reverse

/-- Adds `a` as the newest element. -/
def push (q : Fifo α) (a : α) : Fifo α :=
  ⟨q.front, a :: q.back, q.size + 1, by simp [q.size_eq, Nat.add_assoc]⟩

/-- The oldest element and the queue without it. -/
def pop? (q : Fifo α) : Option (α × Fifo α) :=
  match hf : q.front with
  | a :: front => some (a, ⟨front, q.back, q.size - 1, by simp [q.size_eq, hf]⟩)
  | [] =>
    match hb : q.back.reverse with
    | [] => none
    | a :: front => some (a, ⟨front, [], q.size - 1, by
        have := congrArg List.length hb
        simp only [List.length_reverse, List.length_cons] at this
        simp [q.size_eq, hf, this]⟩)

@[simp] theorem toList_empty : (empty : Fifo α).toList = [] := rfl

@[simp] theorem toList_push (q : Fifo α) (a : α) : (q.push a).toList = q.toList ++ [a] := by
  simp [toList, push]

theorem size_eq_length (q : Fifo α) : q.size = q.toList.length := by
  simp [toList, q.size_eq]

@[simp] theorem size_push (q : Fifo α) (a : α) : (q.push a).size = q.size + 1 := rfl

theorem pop?_eq_none_iff {q : Fifo α} : q.pop? = none ↔ q.toList = [] := by
  unfold pop? toList
  split
  · simp [*]
  · split <;> simp_all

theorem toList_of_pop? {q r : Fifo α} {a : α} (h : q.pop? = some (a, r)) :
    q.toList = a :: r.toList := by
  unfold pop? at h
  split at h
  · next hf =>
    simp only [Option.some.injEq, Prod.mk.injEq] at h
    obtain ⟨rfl, rfl⟩ := h
    simp [toList, hf]
  · next hf =>
    split at h
    · simp at h
    · next hb =>
      simp only [Option.some.injEq, Prod.mk.injEq] at h
      obtain ⟨rfl, rfl⟩ := h
      simp [toList, hf, hb]

theorem exists_pop?_of_toList {q : Fifo α} {a : α} {l : List α} (h : q.toList = a :: l) :
    ∃ r, q.pop? = some (a, r) ∧ r.toList = l := by
  cases hp : q.pop? with
  | none => simp [pop?_eq_none_iff.mp hp] at h
  | some p =>
    have := toList_of_pop? (a := p.1) (r := p.2) hp
    rw [h] at this
    injection this with h₁ h₂
    exact ⟨p.2, by rw [h₁], h₂.symm⟩

end Fifo

end HandleGuard
