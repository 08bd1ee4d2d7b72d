import HandleGuard.Proofs.Store.Refusal

/-!
# How the integer store makes objects

A call makes an object if it has a value for it: `fromInt` is given the value, and an operation
computes it from the values of its operands. The object is made at the lowest address without one, so
an address is used again as soon as its object is gone.

* `compute_eq_ok_iff`   the value that an operation computes
* `compute_noObject`    the operand that it fails for
* `respond_made`        where a call makes its object
* `respond_cases`       what any call does
-/

namespace HandleGuard

/-- The value of the object that a call makes, given the values of the handles. -/
def Request.made? (value? : Handle → Option Int64) : Request → Option Int64
  | fromInt v => some v
  | invoke op [a, b] =>
    if op = ObjectStore.addOp then do return (← value? a) + (← value? b) else none
  | invoke op [a] => if op = ObjectStore.negOp then do return -(← value? a) else none
  | _ => none

namespace ObjectStore

variable {s : ObjectStore} {h : Handle} {op : OpId} {args : List Handle} {v : Int64}

/-! ### Of what value -/

/-- There are two operations that can be given as many operands as they take. -/
theorem operands_of_arity (harity : arity? op = some args.length) :
    (∃ a b, op = addOp ∧ args = [a, b]) ∨ ∃ a, op = negOp ∧ args = [a] := by
  rw [arity?] at harity
  split at harity
  · rename_i hadd
    obtain ⟨a, b, hab⟩ := List.length_eq_two.mp (Option.some.inj harity).symm
    exact .inl ⟨a, b, hadd, hab⟩
  · split at harity
    · rename_i hneg
      obtain ⟨a, ha⟩ := List.length_eq_one_iff.mp (Option.some.inj harity).symm
      exact .inr ⟨a, hneg, ha⟩
    · cases harity

theorem made?_of_arity_ne (harity : arity? op ≠ some args.length) (value? : Handle → Option Int64) :
    (Request.invoke op args).made? value? = none := by
  obtain _ | ⟨a, _ | ⟨b, _ | ⟨c, args⟩⟩⟩ := args
  · rfl
  · exact if_neg (by rintro rfl; exact harity rfl)
  · exact if_neg (by rintro rfl; exact harity rfl)
  · rfl

theorem compute_of_arity_ne (harity : arity? op ≠ some args.length) :
    ∃ e, s.compute op args = .error e := by
  unfold compute
  split
  · rename_i hadd
    split
    · exact absurd (hadd ▸ rfl) harity
    · exact ⟨_, rfl⟩
  · split
    · rename_i hneg
      split
      · exact absurd (hneg ▸ rfl) harity
      · exact ⟨_, rfl⟩
    · exact ⟨_, rfl⟩

theorem compute_addOp (a b : Handle) : s.compute addOp [a, b] = do
    let x ← s.value a
    let y ← s.value b
    return x + y :=
  rfl

theorem compute_negOp (a : Handle) : s.compute negOp [a] = do
    let x ← s.value a
    return -x :=
  rfl

/-- An operation computes a value iff it makes an object, and of this value. -/
theorem compute_eq_ok_iff :
    s.compute op args = .ok v ↔ (Request.invoke op args).made? s.value? = some v := by
  by_cases harity : arity? op = some args.length
  · obtain ⟨a, b, rfl, rfl⟩ | ⟨a, rfl, rfl⟩ := operands_of_arity harity
    · rw [compute_addOp, value_eq_value?, value_eq_value?, Request.made?, if_pos rfl]
      cases s.value? a with
      | none => simp [bind, Except.bind]
      | some x =>
        cases s.value? b with
        | none => simp [bind, Except.bind]
        | some y => simp [bind, Except.bind, pure, Except.pure]
    · rw [compute_negOp, value_eq_value?, Request.made?, if_pos rfl]
      cases s.value? a with
      | none => simp [bind, Except.bind]
      | some x => simp [bind, Except.bind, pure, Except.pure]
  · obtain ⟨e, he⟩ := compute_of_arity_ne (s := s) harity
    rw [he, made?_of_arity_ne harity]
    constructor
    · intro h
      cases h
    · intro h
      cases h

/-- With objects for all its operands, an operation makes an object. -/
theorem exists_made (harity : arity? op = some args.length)
    (hargs : ∀ k ∈ args, ∃ o, s.object? k = some o) :
    ∃ v, (Request.invoke op args).made? s.value? = some v := by
  have hvalue : ∀ k ∈ args, ∃ x, s.value? k = some x := by
    intro k hk
    obtain ⟨o, ho⟩ := hargs k hk
    exact ⟨o.value, by rw [value?, ho]; rfl⟩
  obtain ⟨a, b, rfl, rfl⟩ | ⟨a, rfl, rfl⟩ := operands_of_arity harity
  · obtain ⟨x, hx⟩ := hvalue a (by simp)
    obtain ⟨y, hy⟩ := hvalue b (by simp)
    exact ⟨x + y, by rw [Request.made?, if_pos rfl, hx, hy]; rfl⟩
  · obtain ⟨x, hx⟩ := hvalue a (by simp)
    exact ⟨-x, by rw [Request.made?, if_pos rfl, hx]; rfl⟩

/-- An operation fails for the first operand without an object. -/
theorem compute_noObject {before after : List Handle}
    (harity : arity? op = some (before ++ h :: after).length)
    (hbefore : ∀ k ∈ before, ∃ o, s.object? k = some o) (hnone : s.object? h = none) :
    s.compute op (before ++ h :: after) = .error (.noObject h) := by
  have hvalue : s.value h = .error (.noObject h) := by rw [value_eq, hnone]
  obtain ⟨a, b, rfl, hab⟩ | ⟨a, rfl, ha⟩ := operands_of_arity harity
  · rw [hab, compute_addOp]
    -- The operands are read from left to right.
    obtain ⟨rfl, hb⟩ | ⟨before, rfl, hb⟩ := List.append_eq_cons_iff.mp hab
    · cases hb
      rw [hvalue]
      rfl
    · obtain ⟨o, ho⟩ := hbefore a List.mem_cons_self
      obtain ⟨rfl, hh⟩ | ⟨_, -, hnil⟩ := List.append_eq_cons_iff.mp hb.symm
      · cases hh
        rw [value_eq, ho, hvalue]
        rfl
      · exact absurd hnil.symm (by simp)
  · obtain ⟨rfl, hh⟩ | ⟨_, -, hnil⟩ := List.append_eq_cons_iff.mp ha
    · cases hh
      rw [ha, compute_negOp, hvalue]
      rfl
    · exact absurd hnil.symm (by simp)

/-! ### At which address -/

/-- The handle is the lowest address without an object. -/
structure Lowest (s : ObjectStore) (h : Handle) : Prop where
  ne_null : h ≠ .null
  free : s.object? h = none
  le : ∀ k : Handle, k ≠ .null → s.object? k = none → h.raw ≤ k.raw

/-- The first place for an object, behind the others if none of them is empty. -/
def firstFree (s : ObjectStore) : Nat := (s.objects.findIdx? Option.isNone).getD s.objects.size

/-- The places before the first free one are taken. -/
theorem getElem?_of_lt_firstFree {i : Nat} (hi : i < s.firstFree) :
    ∃ o, s.objects[i]? = some (some o) := by
  have hplace : ∃ hlt : i < s.objects.size, s.objects[i].isNone = false := by
    rw [firstFree] at hi
    cases hfind : s.objects.findIdx? Option.isNone with
    | some n =>
      rw [hfind] at hi
      obtain ⟨hn, -, hbefore⟩ := Array.findIdx?_eq_some_iff_getElem.mp hfind
      exact ⟨Nat.lt_trans hi hn, Bool.eq_false_iff.mpr (hbefore i hi)⟩
    | none =>
      rw [hfind] at hi
      exact ⟨hi, Array.findIdx?_eq_none_iff.mp hfind _ (Array.getElem_mem hi)⟩
  obtain ⟨hlt, hsome⟩ := hplace
  rw [Array.getElem?_eq_getElem hlt]
  cases hx : s.objects[i] with
  | none =>
    rw [hx] at hsome
    cases hsome
  | some o => exact ⟨o, rfl⟩

section

variable (hs : s.WellFormed)

include hs

/-- An object is made at the first free place, if the place has an address. -/
theorem allocate_firstFree (v : Int64) : (s.allocate v).1 =
    if s.firstFree + 1 < Numeral.wordLimit then .ok (handleOf s.firstFree)
    else .error .noAddress := by
  rw [allocate, firstFree]
  cases hfind : s.objects.findIdx? Option.isNone with
  | some i =>
    obtain ⟨hlt, -⟩ := Array.findIdx?_eq_some_iff_getElem.mp hfind
    exact (if_pos (hs.index_lt (Array.getElem?_eq_getElem hlt))).symm
  | none =>
    rw [Option.getD_none]
    exact apply_ite Prod.fst _ _ _

/-- A handle without an object is the address of a place that is not before the first free one. -/
theorem firstFree_le (hnull : h ≠ .null) (hnone : s.object? h = none) :
    ∃ i, i + 1 < Numeral.wordLimit ∧ h = handleOf i ∧ s.firstFree ≤ i := by
  obtain ⟨i, hi, rfl⟩ := exists_eq_handleOf hnull
  refine ⟨i, hi, rfl, Nat.le_of_not_lt fun hlt => ?_⟩
  obtain ⟨o, ho⟩ := getElem?_of_lt_firstFree hlt
  rw [(object?_eq_some_iff hs).mpr ⟨i, ho, rfl⟩] at hnone
  cases hnone

/-- A new object is made at the lowest address without one. Where none is made, every address has an
object. -/
theorem respond_fromInt_lowest (v : Int64) :
    (∃ h s', respond (.fromInt v) s = (.ok (.handle h), s') ∧ s.Lowest h ∧
      s.Updates h (some ⟨v, 1⟩) s') ∨
    (respond (.fromInt v) s = (.error StoreError.noAddress.toCallError, s.counted) ∧
      ∀ k : Handle, k ≠ .null → ∃ o, s.object? k = some o) := by
  have hanswer : (respond (.fromInt v) s).1 =
      ((s.counted.allocate v).1.map .handle).mapError StoreError.toCallError := rfl
  rw [allocate_firstFree hs.counted, show s.counted.firstFree = s.firstFree from rfl] at hanswer
  obtain ⟨h, s', hres, hnull, hnone, hu⟩ | ⟨hres, -⟩ := respond_fromInt hs v
  · refine .inl ⟨h, s', hres, ⟨hnull, hnone, fun k hk hfree => ?_⟩, hu⟩
    obtain ⟨i, hi, rfl, hle⟩ := firstFree_le hs hk hfree
    have hfits : s.firstFree + 1 < Numeral.wordLimit := by omega
    rw [hres, if_pos hfits] at hanswer
    cases hanswer
    rw [UInt64.le_iff_toNat_le, toNat_handleOf hfits, toNat_handleOf hi]
    exact Nat.succ_le_succ hle
  · refine .inr ⟨hres, fun k hk => ?_⟩
    rw [hres] at hanswer
    cases ho : s.object? k with
    | some o => exact ⟨o, rfl⟩
    | none =>
      obtain ⟨i, hi, -, hle⟩ := firstFree_le hs hk ho
      rw [if_pos (by omega)] at hanswer
      cases hanswer

/-- A call that has a value for an object makes it, at the lowest address without one. -/
theorem respond_made {r : Request} (hmade : r.made? s.value? = some v) :
    (∃ h s', respond r s = (.ok (.handle h), s') ∧ s.Lowest h ∧
      s.Updates h (some ⟨v, 1⟩) s') ∨
    (respond r s = (.error StoreError.noAddress.toCallError, s.counted) ∧
      ∀ k : Handle, k ≠ .null → ∃ o, s.object? k = some o) := by
  have hfromInt : respond r s = respond (.fromInt v) s := by
    cases r with
    | fromInt w =>
      cases hmade
      rfl
    | invoke op args => rw [respond_invoke, compute_eq_ok_iff.mpr hmade]
    | _ => cases hmade
  rw [hfromInt]
  exact respond_fromInt_lowest hs v

/-! ### What a call does -/

/-- A call adds a reference to an object, drops one, makes an object, or leaves the objects as they
are. -/
theorem respond_cases (r : Request) :
    (∃ h o s', r = .dup h ∧ s.object? h = some o ∧ respond r s = (.ok (.handle h), s') ∧
      s.Updates h (some { o with refs := min (o.refs + 1) maxRefs }) s') ∨
    (∃ h o s', r = .close h ∧ s.object? h = some o ∧ respond r s = (.ok .closed, s') ∧
      s.Updates h (if o.refs ≤ 1 then none else some { o with refs := o.refs - 1 }) s') ∨
    (∃ v h s', r.made? s.value? = some v ∧ respond r s = (.ok (.handle h), s') ∧ s.Lowest h ∧
      s.Updates h (some ⟨v, 1⟩) s') ∨
    (∃ a, respond r s = (a, s.counted) ∧ (∀ h, a ≠ .ok (.handle h)) ∧
      ((∃ e, a = .error e) ∨ (∃ h, r = .asInt h) ∨ ∃ k k', r = .same k k')) := by
  have hmakes : ∀ {r v}, r.made? s.value? = some v →
      (∃ h s', respond r s = (.ok (.handle h), s') ∧ s.Lowest h ∧ s.Updates h (some ⟨v, 1⟩) s') ∨
      ∃ e, respond r s = (.error e, s.counted) := by
    intro r v hmade
    exact (respond_made hs hmade).imp_right fun ⟨hres, _⟩ => ⟨_, hres⟩
  cases r with
  | dup h =>
    cases ho : s.object? h with
    | some o =>
      obtain ⟨s', hres, hu⟩ := respond_dup hs ho
      exact .inl ⟨h, o, s', rfl, ho, hres, hu⟩
    | none => exact .inr (.inr (.inr ⟨_, (respond_noObject ho).1, by simp, .inl ⟨_, rfl⟩⟩))
  | close h =>
    cases ho : s.object? h with
    | some o =>
      obtain ⟨s', hres, hu⟩ := respond_close hs ho
      exact .inr (.inl ⟨h, o, s', rfl, ho, hres, hu⟩)
    | none => exact .inr (.inr (.inr ⟨_, (respond_noObject ho).2, by simp, .inl ⟨_, rfl⟩⟩))
  | asInt h =>
    refine .inr (.inr (.inr ⟨_, respond_asInt s h, ?_, .inr (.inl ⟨h, rfl⟩)⟩))
    cases s.value h <;> simp
  | same k k' =>
    exact .inr (.inr (.inr ⟨_, respond_same k k' s, by simp, .inr (.inr ⟨k, k', rfl⟩)⟩))
  | fromInt v =>
    obtain ⟨h, s', hres, hlow, hu⟩ | ⟨e, hres⟩ := hmakes (r := .fromInt v) rfl
    · exact .inr (.inr (.inl ⟨v, h, s', rfl, hres, hlow, hu⟩))
    · exact .inr (.inr (.inr ⟨_, hres, by simp, .inl ⟨e, rfl⟩⟩))
  | invoke op args =>
    cases hcompute : s.compute op args with
    | ok v =>
      have hmade := compute_eq_ok_iff.mp hcompute
      obtain ⟨h, s', hres, hlow, hu⟩ | ⟨e, hres⟩ := hmakes hmade
      · exact .inr (.inr (.inl ⟨v, h, s', hmade, hres, hlow, hu⟩))
      · exact .inr (.inr (.inr ⟨_, hres, by simp, .inl ⟨e, rfl⟩⟩))
    | error e =>
      have hres := respond_invoke s op args
      rw [hcompute] at hres
      exact .inr (.inr (.inr ⟨_, hres, by simp, .inl ⟨_, rfl⟩⟩))

/-- A call that fails is counted and changes nothing else. -/
theorem respond_error {r : Request} {e : CallError} (herror : (respond r s).1 = .error e) :
    (respond r s).2 = s.counted := by
  obtain ⟨_, _, _, -, -, hres, -⟩ | ⟨_, _, _, -, -, hres, -⟩ | ⟨_, _, _, -, hres, -⟩ |
    ⟨a, hres, -⟩ := respond_cases hs r
  · rw [hres] at herror
    cases herror
  · rw [hres] at herror
    cases herror
  · rw [hres] at herror
    cases herror
  · rw [hres]

end

end ObjectStore

end HandleGuard
