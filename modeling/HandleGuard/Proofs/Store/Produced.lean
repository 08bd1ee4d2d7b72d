import HandleGuard.Proofs.Store.Allocation

/-!
# Handles that the integer store produces

A call that answers a handle has added a reference to an object, or has made a new object. When the
handle is closed at once, the store has the objects it had before, and only the two calls are left to
tell of it.

* `calls_respond`          every call is counted once
* `respond_produced`       what a call did that answered a handle
* `close_produced`         closing that handle undoes it
* `liveObjects_congr`      the objects are as many as there are handles with a value
-/

namespace HandleGuard.ObjectStore

variable {s s' : ObjectStore} {h : Handle} {r : Request}

/-! ### Counting the calls -/

private theorem calls_allocate (s : ObjectStore) (v : Int64) :
    (s.allocate v).2.calls = s.calls := by
  rw [allocate]
  split
  · rfl
  · split
    · rfl
    · rfl

/-- Every call is counted once. -/
theorem calls_respond (r : Request) (s : ObjectStore) :
    (respond r s).2.calls = s.calls + 1 := by
  rw [respond_eq]
  show (s.counted.answer r).2.calls = s.counted.calls
  generalize s.counted = s
  cases r with
  | fromInt v => exact calls_allocate s v
  | invoke op args =>
    rw [answer]
    split
    · rfl
    · exact calls_allocate s _
  | asInt k => rfl
  | same a b => rfl
  | _ =>
    rw [answer]
    split
    · rfl
    · rfl

/-- `close` never answers a handle. -/
theorem respond_close_ne_handle (h k : Handle) (s : ObjectStore) :
    (respond (.close h) s).1 ≠ .ok (.handle k) := by
  rw [respond_eq, answer]
  intro hhandle
  split at hhandle
  · cases hhandle
  · cases hhandle

section

variable (hs : s.WellFormed)

include hs

/-- As many objects live as there are handles with a value. -/
theorem liveObjects_congr (hs' : s'.WellFormed) (hsame : ∀ k, s'.value? k = s.value? k) :
    s'.liveObjects = s.liveObjects := by
  have hlive : ∀ {s : ObjectStore}, s.WellFormed → ∀ k,
      k ∈ s.liveHandles ↔ (s.value? k).isSome = true := by
    intro s hs k
    rw [mem_liveHandles_iff hs, value?, Option.isSome_map, Option.isSome_iff_exists]
  rw [liveObjects_eq_length, liveObjects_eq_length]
  apply List.Perm.length_eq
  rw [List.perm_ext_iff_of_nodup (nodup_liveHandles hs') (nodup_liveHandles hs)]
  intro k
  rw [hlive hs', hlive hs, hsame]

/-! ### What was produced can be given back -/

/-- A handle that is answered is that of an object with one reference more, or of a new object. -/
theorem respond_produced (hres : respond r s = (.ok (.handle h), s')) :
    (∃ o, s.object? h = some o ∧
      s.Updates h (some { o with refs := min (o.refs + 1) maxRefs }) s') ∨
    (s.object? h = none ∧ ∃ v, s.Updates h (some ⟨v, 1⟩) s') := by
  obtain ⟨k, o, s'', -, ho, hanswer, hu⟩ | ⟨k, o, s'', -, -, hanswer, -⟩ |
    ⟨v, k, s'', -, hanswer, hlowest, hu⟩ | ⟨a, hanswer, hother, -⟩ := respond_cases hs r
  all_goals rw [hanswer] at hres
  · cases hres
    exact .inl ⟨o, ho, hu⟩
  · cases hres
  · cases hres
    exact .inr ⟨hlowest.free, v, hu⟩
  · exact absurd (congrArg Prod.fst hres) (hother h)

/-- Closing a handle that was just answered cannot fail, and afterwards the objects are those of
before. Only a reference that was not counted is missing. -/
theorem close_produced (hres : respond r s = (.ok (.handle h), s')) :
    ∃ s'', respond (.close h) s' = (.ok .closed, s'') ∧ s''.WellFormed ∧
      (∀ k, s''.value? k = s.value? k) ∧
      ∀ k o, s.object? k = some o → o.refs < maxRefs → s''.object? k = some o := by
  have hmany : 1 < maxRefs := by decide
  obtain ⟨o, ho, hu⟩ | ⟨hnone, v, hu⟩ := respond_produced hs hres
  · -- One reference was added to the object and is taken away again.
    have hpos := (refs_of_object? hs ho).1
    have ho' := hu.object? h
    rw [if_pos rfl] at ho'
    obtain ⟨s'', hclose, hu'⟩ := respond_close hu.wellFormed ho'
    rw [if_neg (by dsimp only; omega)] at hu'
    refine ⟨s'', hclose, hu'.wellFormed, fun k => ?_, fun k x hx hlt => ?_⟩
    · rw [hu'.value?, hu.value?]
      by_cases hk : k = h
      · rw [if_pos hk, hk, value?, ho]
        rfl
      · rw [if_neg hk, if_neg hk]
    · rw [hu'.object?, hu.object?]
      by_cases hk : k = h
      · rw [hk, ho, Option.some.injEq] at hx
        subst hx
        rw [if_pos hk]
        have hback : min (o.refs + 1) maxRefs - 1 = o.refs := by omega
        simp only [hback]
      · rw [if_neg hk, if_neg hk, hx]
  · -- A new object goes with its only reference.
    have ho' := hu.object? h
    rw [if_pos rfl] at ho'
    obtain ⟨s'', hclose, hu'⟩ := respond_close hu.wellFormed ho'
    rw [if_pos (Nat.le_refl 1)] at hu'
    have hsame : ∀ k, s''.object? k = s.object? k := by
      intro k
      rw [hu'.object?, hu.object?]
      by_cases hk : k = h
      · rw [if_pos hk, hk, hnone]
      · rw [if_neg hk, if_neg hk]
    refine ⟨s'', hclose, hu'.wellFormed, fun k => ?_, fun k x hx _ => ?_⟩
    · rw [value?, value?, hsame]
    · rw [hsame, hx]

end

end HandleGuard.ObjectStore
