import HandleGuard.Store
import HandleGuard.Proofs.Lists

/-!
# What the integer store does, object by object

The store is read through `object?`, which tells what a handle stands for. For each kind of call
there is one theorem that gives the answer and the objects afterwards:

* `respond_dup`, `respond_close`, `respond_fromInt`, `respond_asInt`, `respond_same`,
  `respond_invoke`

`liveObjects_eq_length` counts the objects by their handles.
-/

namespace HandleGuard.ObjectStore

variable {s s' : ObjectStore} {h k : Handle} {o : StoredObject}

/-- Handles tell all objects apart, and every object has a number of references that is counted. -/
structure WellFormed (s : ObjectStore) : Prop where
  size_lt : s.objects.size < Numeral.wordLimit
  refs : ∀ {i : Nat} {o : StoredObject}, s.objects[i]? = some (some o) →
    1 ≤ o.refs ∧ o.refs ≤ maxRefs

theorem empty_wellFormed : empty.WellFormed where
  size_lt := by decide
  refs := by intro i o h; simp [empty] at h

/-- The object that a handle stands for. -/
def object? (s : ObjectStore) (h : Handle) : Option StoredObject := (s.find? h).map Prod.snd

@[simp] theorem object?_empty (h : Handle) : empty.object? h = none := by
  simp only [object?, find?, empty]
  cases indexOf? h <;> simp

/-! ### Handles and indices -/

theorem toNat_handleOf {i : Nat} (hi : i + 1 < Numeral.wordLimit) :
    (handleOf i).raw.toNat = i + 1 := by
  simp only [handleOf, UInt64.toNat_ofNat']
  exact Nat.mod_eq_of_lt hi

theorem handleOf_ne_null {i : Nat} (hi : i + 1 < Numeral.wordLimit) : handleOf i ≠ .null := by
  intro h
  have hzero := congrArg (fun h : Handle => h.raw.toNat) h
  rw [toNat_handleOf hi] at hzero
  exact Nat.succ_ne_zero i hzero

theorem handleOf_inj {i j : Nat} (hi : i + 1 < Numeral.wordLimit) (hj : j + 1 < Numeral.wordLimit)
    (h : handleOf i = handleOf j) : i = j := by
  have heq := congrArg (fun h : Handle => h.raw.toNat) h
  rw [toNat_handleOf hi, toNat_handleOf hj] at heq
  omega

/-- Every handle but null is the handle of an index. -/
theorem exists_eq_handleOf (hnull : h ≠ .null) :
    ∃ i, i + 1 < Numeral.wordLimit ∧ h = handleOf i := by
  have hne : h.raw.toNat ≠ 0 := by
    intro hzero
    rw [← UInt64.toNat_zero, UInt64.toNat_inj] at hzero
    cases h
    exact hnull (congrArg Handle.mk hzero)
  have hlt := h.raw.toNat_lt
  have hi : h.raw.toNat - 1 + 1 < Numeral.wordLimit := by
    simp only [Numeral.wordLimit]
    omega
  have hraw : (handleOf (h.raw.toNat - 1)).raw = h.raw := by
    rw [← UInt64.toNat_inj, toNat_handleOf hi]
    omega
  cases h
  exact ⟨_, hi, congrArg Handle.mk hraw.symm⟩

/-- The handle of an index is the handle whose index it is. -/
theorem indexOf?_eq_some_iff {i : Nat} (hi : i + 1 < Numeral.wordLimit) :
    indexOf? h = some i ↔ h = handleOf i := by
  have hindex : ∀ {j : Nat}, j + 1 < Numeral.wordLimit → indexOf? (handleOf j) = some j := by
    intro j hj
    have hnull : ¬(handleOf j).isNull = true := by
      rw [Handle.isNull_iff]
      exact handleOf_ne_null hj
    rw [indexOf?, if_neg hnull, toNat_handleOf hj, Nat.add_sub_cancel]
  constructor
  · intro hidx
    have hnull : h ≠ .null := by
      rintro rfl
      cases hidx
    obtain ⟨j, hj, rfl⟩ := exists_eq_handleOf hnull
    rw [hindex hj] at hidx
    rw [Option.some.inj hidx]
  · rintro rfl
    exact hindex hi

section

variable (hs : s.WellFormed)

include hs

theorem WellFormed.index_lt {i : Nat} {x : Option StoredObject} (hi : s.objects[i]? = some x) :
    i + 1 < Numeral.wordLimit := by
  have hlt := (Array.getElem?_eq_some_iff.mp hi).1
  have hsize := hs.size_lt
  omega

theorem find?_eq_some_iff {i : Nat} :
    s.find? h = some (i, o) ↔ s.objects[i]? = some (some o) ∧ h = handleOf i := by
  simp only [find?, Option.bind_eq_bind, Option.bind_eq_some_iff, Option.map_eq_some_iff,
    Prod.mk.injEq]
  constructor
  · rintro ⟨j, hj, x, hx, o', rfl, rfl, rfl⟩
    exact ⟨hx, (indexOf?_eq_some_iff (hs.index_lt hx)).mp hj⟩
  · rintro ⟨hi, rfl⟩
    exact ⟨i, (indexOf?_eq_some_iff (hs.index_lt hi)).mpr rfl, some o, hi, o, rfl, rfl, rfl⟩

theorem object?_eq_some_iff :
    s.object? h = some o ↔ ∃ i, s.objects[i]? = some (some o) ∧ h = handleOf i := by
  simp only [object?, Option.map_eq_some_iff, Prod.exists, exists_eq_right, find?_eq_some_iff hs]

/-- A handle with an object is not null. -/
theorem ne_null_of_object? (ho : s.object? h = some o) : h ≠ .null := by
  obtain ⟨i, hi, rfl⟩ := (object?_eq_some_iff hs).mp ho
  exact handleOf_ne_null (hs.index_lt hi)

/-- A place without an object makes a handle without one. -/
theorem object?_handleOf_eq_none {i : Nat} (hi : i + 1 < Numeral.wordLimit)
    (hnone : ∀ o, s.objects[i]? ≠ some (some o)) : s.object? (handleOf i) = none := by
  rw [← Option.not_isSome_iff_eq_none, Option.isSome_iff_exists]
  intro ⟨o, ho⟩
  obtain ⟨j, hj, heq⟩ := (object?_eq_some_iff hs).mp ho
  rw [← handleOf_inj hi (hs.index_lt hj) heq] at hj
  exact hnone o hj

theorem refs_of_object? (ho : s.object? h = some o) : 1 ≤ o.refs ∧ o.refs ≤ maxRefs := by
  obtain ⟨i, hi, rfl⟩ := (object?_eq_some_iff hs).mp ho
  exact hs.refs hi

end

/-! ### Changing one object -/

/-- What a handle stands for depends on the objects only. -/
theorem object?_congr (h : s'.objects = s.objects) : s'.object? = s.object? := by
  funext k
  simp only [object?, find?, h]

theorem wellFormed_congr (h : s'.objects = s.objects) (hs : s.WellFormed) : s'.WellFormed :=
  ⟨h ▸ hs.size_lt, h ▸ hs.refs⟩

/-- A change at one index changes what one handle stands for. -/
private theorem object?_update {i : Nat} (hi : i + 1 < Numeral.wordLimit)
    {x : Option StoredObject}
    (hobjects : ∀ j, s'.objects[j]? = if j = i then some x else s.objects[j]?) (k : Handle) :
    s'.object? k = if k = handleOf i then x else s.object? k := by
  -- A handle is looked up by its index alone.
  have hrep : ∀ s : ObjectStore, s.object? k = (indexOf? k).bind fun j => s.objects[j]?.join := by
    intro s
    simp only [object?, find?]
    cases indexOf? k with
    | none => rfl
    | some j =>
      cases hj : s.objects[j]? with
      | none => simp [hj]
      | some x => cases x <;> simp [hj]
  rw [hrep, hrep]
  by_cases hk : k = handleOf i
  · rw [if_pos hk, (indexOf?_eq_some_iff hi).mpr hk]
    simp [hobjects]
  · rw [if_neg hk]
    cases hidx : indexOf? k with
    | none => rfl
    | some j =>
      have hji : j ≠ i := by
        rintro rfl
        exact hk ((indexOf?_eq_some_iff hi).mp hidx)
      simp [hobjects, hji]

private theorem getElem?_put {i : Nat} (hi : i < s.objects.size) (x : Option StoredObject)
    (j : Nat) : (s.put i x).objects[j]? = if j = i then some x else s.objects[j]? := by
  rw [put, Array.getElem?_setIfInBounds, if_pos hi]
  simp only [eq_comm]

private theorem put_wellFormed (hs : s.WellFormed) {i : Nat} (hi : i < s.objects.size)
    {x : Option StoredObject} (hx : ∀ o, x = some o → 1 ≤ o.refs ∧ o.refs ≤ maxRefs) :
    (s.put i x).WellFormed where
  size_lt := by
    rw [put, Array.size_setIfInBounds]
    exact hs.size_lt
  refs := by
    intro j o hj
    rw [getElem?_put hi] at hj
    split at hj
    · exact hx o (Option.some.inj hj)
    · exact hs.refs hj

/-- What changes with a call: the objects are as before, except for the one of `h`. -/
structure Updates (s : ObjectStore) (h : Handle) (x : Option StoredObject) (s' : ObjectStore) :
    Prop where
  wellFormed : s'.WellFormed
  object? : ∀ k, s'.object? k = if k = h then x else s.object? k

/-- Replacing the object of a handle that has one. -/
private theorem updates_put (hs : s.WellFormed) {i : Nat} (hfind : s.find? h = some (i, o))
    {x : Option StoredObject} (hx : ∀ o, x = some o → 1 ≤ o.refs ∧ o.refs ≤ maxRefs) :
    s.Updates h x (s.put i x) := by
  obtain ⟨hi, rfl⟩ := (find?_eq_some_iff hs).mp hfind
  have hlt : i < s.objects.size := (Array.getElem?_eq_some_iff.mp hi).1
  exact ⟨put_wellFormed hs hlt hx, object?_update (hs.index_lt hi) (getElem?_put hlt x)⟩

/-! ### New objects -/

/-- Without an empty place there are as many objects as places. -/
theorem liveObjects_eq_size (hfull : s.objects.findIdx? Option.isNone = none) :
    s.liveObjects = s.objects.size := by
  rw [liveObjects, Array.countP_eq_size]
  intro x hx
  have hsome := Array.findIdx?_eq_none_iff.mp hfull x hx
  cases x with
  | none => exact nomatch hsome
  | some o => rfl

/-- A new object gets a handle that had no object, unless every address has one. -/
theorem allocate_cases (hs : s.WellFormed) (v : Int64) :
    (∃ h s', s.allocate v = (.ok h, s') ∧ h ≠ .null ∧ s.object? h = none ∧
      s.Updates h (some ⟨v, 1⟩) s') ∨
    (s.allocate v = (.error .noAddress, s) ∧ s.liveObjects + 1 = Numeral.wordLimit) := by
  have hnew : ∀ o : StoredObject, some (StoredObject.mk v 1) = some o →
      1 ≤ o.refs ∧ o.refs ≤ maxRefs := by
    intro o ho
    cases ho
    exact ⟨Nat.le_refl 1, (by decide : 1 ≤ maxRefs)⟩
  -- The lowest empty place is taken, or else a new one at the end while there are addresses.
  cases hidx : s.objects.findIdx? Option.isNone with
  | some i =>
    obtain ⟨hlt, hnone, -⟩ := Array.findIdx?_eq_some_iff_getElem.mp hidx
    have hi : s.objects[i]? = some none := by
      rw [Array.getElem?_eq_getElem hlt, Option.isNone_iff_eq_none.mp hnone]
    refine .inl ⟨handleOf i, s.put i (some ⟨v, 1⟩), by simp only [allocate, hidx],
      handleOf_ne_null (hs.index_lt hi), ?_, put_wellFormed hs hlt hnew,
      object?_update (hs.index_lt hi) (getElem?_put hlt _)⟩
    refine object?_handleOf_eq_none hs (hs.index_lt hi) fun o ho => ?_
    rw [hi] at ho
    exact nomatch ho
  | none =>
    by_cases hsize : s.objects.size + 1 < Numeral.wordLimit
    · refine .inl ⟨handleOf s.objects.size, { s with objects := s.objects.push (some ⟨v, 1⟩) },
        by simp only [allocate, hidx, if_pos hsize],
        handleOf_ne_null hsize, ?_, ⟨by rw [Array.size_push]; exact hsize, ?_⟩,
        object?_update hsize fun j => by rw [Array.getElem?_push]⟩
      · refine object?_handleOf_eq_none hs hsize fun o ho => ?_
        simp at ho
      · intro j o hj
        rw [Array.getElem?_push] at hj
        split at hj
        · exact hnew o (Option.some.inj hj)
        · exact hs.refs hj
    · refine .inr ⟨by simp only [allocate, hidx, if_neg hsize], ?_⟩
      -- Every address is taken, as no place is empty.
      have hall : s.liveObjects = s.objects.size := liveObjects_eq_size hidx
      have hlt := hs.size_lt
      omega

/-! ### The six calls -/

/-- The store when a call came in. -/
def counted (s : ObjectStore) : ObjectStore := { s with calls := s.calls + 1 }

theorem object?_counted (s : ObjectStore) : s.counted.object? = s.object? := object?_congr rfl

theorem WellFormed.counted (hs : s.WellFormed) : s.counted.WellFormed :=
  wellFormed_congr (show s.counted.objects = s.objects from rfl) hs

theorem Updates.of_counted {x : Option StoredObject} (hu : s.counted.Updates h x s') :
    s.Updates h x s' := by
  refine ⟨hu.wellFormed, fun k => ?_⟩
  rw [hu.object?, object?_counted]

theorem respond_eq (r : Request) (s : ObjectStore) :
    respond r s = ((s.counted.answer r).1.mapError StoreError.toCallError,
      (s.counted.answer r).2) :=
  rfl

/-- All failures of the store are its own. -/
theorem error_of_respond {r : Request} {e : CallError} (h : (respond r s).1 = .error e) :
    ∃ code text, e = .call code text := by
  rw [respond_eq] at h
  cases hanswer : (s.counted.answer r).1 with
  | ok reply =>
    rw [hanswer] at h
    cases h
  | error refusal =>
    rw [hanswer] at h
    cases h
    exact ⟨_, _, rfl⟩

section

variable (hs : s.WellFormed)

include hs

/-- `dup` of a handle with an object adds a reference, as far as references are counted. -/
theorem respond_dup (ho : s.object? h = some o) :
    ∃ s', respond (.dup h) s = (.ok (.handle h), s') ∧
      s.Updates h (some { o with refs := min (o.refs + 1) maxRefs }) s' := by
  rw [← object?_counted] at ho
  obtain ⟨⟨i, o'⟩, hfind, hsnd⟩ := Option.map_eq_some_iff.mp ho
  cases hsnd
  refine ⟨_, ?_, .of_counted (updates_put hs.counted hfind fun x hx => ?_)⟩
  · simp only [respond_eq, answer, hfind]
    rfl
  · cases hx
    exact ⟨by simp only [maxRefs, Numeral.halfWordLimit]; omega, Nat.min_le_right _ _⟩

/-- `close` of a handle with an object drops a reference, and with the last one the object. -/
theorem respond_close (ho : s.object? h = some o) :
    ∃ s', respond (.close h) s = (.ok .closed, s') ∧
      s.Updates h (if o.refs ≤ 1 then none else some { o with refs := o.refs - 1 }) s' := by
  rw [← object?_counted] at ho
  have hrefs := refs_of_object? hs.counted ho
  obtain ⟨⟨i, o'⟩, hfind, hsnd⟩ := Option.map_eq_some_iff.mp ho
  cases hsnd
  refine ⟨_, ?_, .of_counted (updates_put hs.counted hfind fun x hx => ?_)⟩
  · simp only [respond_eq, answer, hfind]
    rfl
  · split at hx
    · exact nomatch hx
    · cases hx
      dsimp only at *
      omega

/-- A new object, or the one error there is when every address has an object. -/
theorem respond_fromInt (v : Int64) :
    (∃ h s', respond (.fromInt v) s = (.ok (.handle h), s') ∧ h ≠ .null ∧ s.object? h = none ∧
      s.Updates h (some ⟨v, 1⟩) s') ∨
    (respond (.fromInt v) s = (.error StoreError.noAddress.toCallError, s.counted) ∧
      s.liveObjects + 1 = Numeral.wordLimit) := by
  obtain ⟨h, s', halloc, hnull, hnone, hu⟩ | ⟨halloc, hfull⟩ := allocate_cases hs.counted v
  · refine .inl ⟨h, s', ?_, hnull, ?_, .of_counted hu⟩
    · simp only [respond_eq, answer, halloc]
      rfl
    · rw [← object?_counted, hnone]
  · refine .inr ⟨?_, hfull⟩
    simp only [respond_eq, answer, halloc]
    rfl

end

/-- A handle without an object can neither be duplicated nor closed. -/
theorem respond_noObject (ho : s.object? h = none) :
    respond (.dup h) s = (.error (StoreError.noObject h).toCallError, s.counted) ∧
      respond (.close h) s = (.error (StoreError.noObject h).toCallError, s.counted) := by
  rw [← object?_counted] at ho
  have hfind := Option.map_eq_none_iff.mp ho
  constructor <;> simp only [respond_eq, answer, hfind] <;> rfl

theorem value_eq (h : Handle) :
    s.value h = match s.object? h with
      | some o => .ok o.value
      | none => .error (.noObject h) := by
  simp only [value, object?]
  cases s.find? h <;> rfl

/-- `asInt` answers the value of the object, or why there is none. -/
theorem respond_asInt (s : ObjectStore) (h : Handle) :
    respond (.asInt h) s = ((match s.value h with
      | .ok v => .ok (.value v)
      | .error e => .error e.toCallError), s.counted) := by
  simp only [respond_eq, answer, show s.counted.value h = s.value h from rfl]
  cases s.value h <;> rfl

/-- `same` compares the handles. -/
theorem respond_same (a b : Handle) (s : ObjectStore) :
    respond (.same a b) s = (.ok (.same (a == b)), s.counted) :=
  rfl

theorem compute_counted (op : OpId) (args : List Handle) :
    s.counted.compute op args = s.compute op args :=
  rfl

/-- `invoke` computes a value and makes a new object of it. -/
theorem respond_invoke (s : ObjectStore) (op : OpId) (args : List Handle) :
    respond (.invoke op args) s = match s.compute op args with
      | .error e => (.error e.toCallError, s.counted)
      | .ok v => respond (.fromInt v) s := by
  simp only [respond_eq, answer, compute_counted]
  cases s.compute op args <;> rfl

/-- With objects for all its arguments, an operation fails for other reasons only. -/
theorem compute_ne_noObject {op : OpId} {args : List Handle}
    (hargs : ∀ h ∈ args, ∃ o, s.object? h = some o) (h : Handle) :
    s.compute op args ≠ .error (.noObject h) := by
  have hvalue : ∀ h ∈ args, ∃ v, s.value h = .ok v := by
    intro h hh
    obtain ⟨o, ho⟩ := hargs h hh
    exact ⟨o.value, by rw [value_eq, ho]⟩
  simp only [compute]
  split
  · split
    · rename_i a b
      obtain ⟨x, hx⟩ := hvalue a (by simp)
      obtain ⟨y, hy⟩ := hvalue b (by simp)
      rw [hx, hy]
      exact nofun
    · exact nofun
  · split
    · split
      · rename_i a
        obtain ⟨x, hx⟩ := hvalue a (by simp)
        rw [hx]
        exact nofun
      · exact nofun
    · exact nofun

/-! ### Values -/

/-- The value of the object of a handle. -/
def value? (s : ObjectStore) (h : Handle) : Option Int64 := (s.object? h).map StoredObject.value

theorem value?_congr (h : s'.objects = s.objects) : s'.value? = s.value? := by
  funext k
  rw [value?, value?, object?_congr h]

theorem value_eq_value? (s : ObjectStore) (h : Handle) :
    s.value h = match s.value? h with
      | some v => .ok v
      | none => .error (.noObject h) := by
  rw [value_eq, value?]
  cases s.object? h <;> rfl

theorem Updates.value? {x : Option StoredObject} (hu : s.Updates h x s') (k : Handle) :
    s'.value? k = if k = h then x.map StoredObject.value else s.value? k := by
  rw [ObjectStore.value?, hu.object?]
  split
  · rfl
  · rfl

/-! ### Counting the objects -/

/-- The handles of the objects. -/
def liveHandles (s : ObjectStore) : List Handle :=
  s.objects.toList.zipIdx.filterMap fun p => p.1.map fun _ => handleOf p.2

theorem liveObjects_eq_length (s : ObjectStore) : s.liveObjects = s.liveHandles.length := by
  have hsome : (fun p : Option StoredObject × Nat => (p.1.map fun _ => handleOf p.2).isSome) =
      Option.isSome ∘ Prod.fst := by
    funext p
    simp
  rw [liveObjects, liveHandles, List.length_filterMap_eq_countP, hsome, ← List.countP_map,
    List.zipIdx_map_fst, Array.countP_toList]

theorem mem_liveHandles_iff (hs : s.WellFormed) :
    h ∈ s.liveHandles ↔ ∃ o, s.object? h = some o := by
  simp only [liveHandles, List.mem_filterMap, Prod.exists, List.mem_zipIdx_iff_getElem?,
    Array.getElem?_toList, Option.map_eq_some_iff, object?_eq_some_iff hs]
  constructor
  · rintro ⟨x, i, hi, o, rfl, rfl⟩
    exact ⟨o, i, hi, rfl⟩
  · rintro ⟨o, i, hi, rfl⟩
    exact ⟨some o, i, hi, o, rfl, rfl⟩

theorem nodup_liveHandles (hs : s.WellFormed) : s.liveHandles.Nodup := by
  refine List.nodup_filterMap_zipIdx _ fun {i j x y k} hi hj hk hk' => ?_
  rw [Array.getElem?_toList] at hi hj
  obtain ⟨-, -, rfl⟩ := Option.map_eq_some_iff.mp hk
  obtain ⟨-, -, heq⟩ := Option.map_eq_some_iff.mp hk'
  exact handleOf_inj (hs.index_lt hi) (hs.index_lt hj) heq.symm

/-! ### Counting the places -/

theorem liveObjects_le_size (s : ObjectStore) : s.liveObjects ≤ s.objects.size :=
  Array.countP_le_size

@[simp] theorem size_put (s : ObjectStore) (i : Nat) (o : Option StoredObject) :
    (s.put i o).objects.size = s.objects.size :=
  Array.size_setIfInBounds

theorem size_allocate_le (s : ObjectStore) (v : Int64) :
    (s.allocate v).2.objects.size ≤ s.objects.size + 1 := by
  rw [allocate]
  split
  · rw [size_put]
    exact Nat.le_succ _
  · split
    · exact Nat.le_of_eq (Array.size_push _)
    · exact Nat.le_succ _

/-- A call takes one new place at most. -/
theorem size_respond_le (r : Request) (s : ObjectStore) :
    (respond r s).2.objects.size ≤ s.objects.size + 1 := by
  rw [respond_eq]
  show (s.counted.answer r).2.objects.size ≤ s.counted.objects.size + 1
  generalize s.counted = s
  cases r with
  | fromInt v => exact size_allocate_le s v
  | invoke op args =>
    rw [answer]
    split
    · exact Nat.le_succ _
    · exact size_allocate_le s _
  | asInt h => exact Nat.le_succ _
  | same a b => exact Nat.le_succ _
  | _ =>
    rw [answer]
    split
    · rw [size_put]
      exact Nat.le_succ _
    · exact Nat.le_succ _

theorem size_respond_close (h : Handle) (s : ObjectStore) :
    (respond (.close h) s).2.objects.size = s.objects.size := by
  rw [respond_eq]
  show (s.counted.answer (.close h)).2.objects.size = s.counted.objects.size
  rw [answer]
  split
  · exact size_put _ _ _
  · rfl

end HandleGuard.ObjectStore
