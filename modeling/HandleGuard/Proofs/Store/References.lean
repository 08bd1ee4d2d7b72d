import HandleGuard.Handle.Encoding
import HandleGuard.Proofs.Store.Objects

/-!
# Reference counts of the integer store

What calls do to the reference counts alone: a call that answers a handle adds one reference to it,
a `close` that succeeds takes one away, and all other calls leave the counts as they are
(`respond_refs`). Calls whose arguments all have references are never refused for an argument.
-/

namespace HandleGuard.ObjectStore

variable {s s' : ObjectStore} {h : Handle}

/-- The number of references to the object of a handle, none where there is no object. -/
def refs (s : ObjectStore) (h : Handle) : Nat := ((s.object? h).map StoredObject.refs).getD 0

@[simp] theorem refs_empty (h : Handle) : empty.refs h = 0 := by
  simp [refs]

theorem refs_eq_of_object? {o : StoredObject} (ho : s.object? h = some o) : s.refs h = o.refs := by
  rw [refs, ho]
  rfl

theorem refs_eq_zero_of_none (ho : s.object? h = none) : s.refs h = 0 := by
  rw [refs, ho]
  rfl

/-- References depend on the objects only. -/
theorem refs_congr (h : s'.objects = s.objects) : s'.refs = s.refs := by
  funext k
  rw [refs, refs, object?_congr h]

theorem refs_counted (s : ObjectStore) : s.counted.refs = s.refs := refs_congr rfl

/-- A handle has references iff it has an object. -/
theorem refs_pos_iff (hs : s.WellFormed) : 0 < s.refs h ↔ ∃ o, s.object? h = some o := by
  cases ho : s.object? h with
  | none => simp [refs_eq_zero_of_none ho]
  | some o =>
    have hpos := (refs_of_object? hs ho).1
    rw [refs_eq_of_object? ho]
    exact ⟨fun _ => ⟨o, rfl⟩, fun _ => hpos⟩

theorem Updates.refs {x : Option StoredObject} (hu : s.Updates h x s') (k : Handle) :
    s'.refs k = if k = h then (x.map StoredObject.refs).getD 0 else s.refs k := by
  rw [ObjectStore.refs, hu.object?]
  split
  · rfl
  · rfl

/-- One more reference to an object that exists. -/
theorem Updates.refs_dup {o : StoredObject} (ho : s.object? h = some o)
    (hu : s.Updates h (some { o with refs := min (o.refs + 1) maxRefs }) s') (k : Handle) :
    s'.refs k = if k = h then min (s.refs h + 1) maxRefs else s.refs k := by
  rw [hu.refs, refs_eq_of_object? ho]
  rfl

/-- The first reference to a new object. -/
theorem Updates.refs_new {v : Int64} (hnone : s.object? h = none)
    (hu : s.Updates h (some ⟨v, 1⟩) s') (k : Handle) :
    s'.refs k = if k = h then min (s.refs h + 1) maxRefs else s.refs k := by
  rw [hu.refs, refs_eq_zero_of_none hnone]
  rfl

/-- Whether a call was refused because an argument has no object. -/
def RefusesArgument (a : Except CallError Reply) : Prop := ∃ text, a = .error (.call 1 text)

theorem refusesArgument_iff {e : StoreError} :
    RefusesArgument (.error e.toCallError) ↔ ∃ h, e = .noObject h := by
  cases e <;> simp [RefusesArgument, StoreError.toCallError, StoreError.code]

/-- `close` of a handle with references takes one away. What keeps a reference keeps its value. -/
theorem respond_close_refs (hs : s.WellFormed) (hpos : 0 < s.refs h) :
    ∃ s', respond (.close h) s = (.ok .closed, s') ∧ s'.WellFormed ∧
      (∀ k, s'.refs k = if k = h then s.refs h - 1 else s.refs k) ∧
      ∀ k, 0 < s'.refs k → s'.value? k = s.value? k := by
  obtain ⟨o, ho⟩ := (refs_pos_iff hs).mp hpos
  obtain ⟨s', hres, hu⟩ := respond_close hs ho
  refine ⟨s', hres, hu.wellFormed, fun k => ?_, fun k hk => ?_⟩
  · rw [hu.refs, refs_eq_of_object? ho]
    -- The object goes with its last reference, and then no reference is left either.
    by_cases hone : o.refs ≤ 1
    · rw [if_pos hone]
      show (if k = h then 0 else s.refs k) = if k = h then o.refs - 1 else s.refs k
      rw [show o.refs - 1 = 0 by omega]
    · rw [if_neg hone]
      rfl
  · rw [hu.refs] at hk
    rw [hu.value?]
    by_cases hkh : k = h
    · subst hkh
      rw [if_pos rfl] at hk ⊢
      by_cases hone : o.refs ≤ 1
      · rw [if_pos hone] at hk
        exact absurd hk (Nat.lt_irrefl 0)
      · rw [if_neg hone, value?, ho]
        rfl
    · rw [if_neg hkh]

/-- A call that makes an object adds the first reference, or finds no address. -/
private theorem respond_refs_new (hs : s.WellFormed) {r : Request} {v : Int64}
    (heq : respond r s = respond (.fromInt v) s) (hclose : ∀ h, r ≠ .close h) :
    (∃ h s', respond r s = (.ok (.handle h), s') ∧ h ≠ .null ∧ s'.WellFormed ∧
      ∀ k, s'.refs k = if k = h then min (s.refs h + 1) maxRefs else s.refs k) ∨
    (∃ a, respond r s = (a, s.counted) ∧ (∀ h, a ≠ .ok (.handle h)) ∧
      ((∀ h ∈ r.handles, 0 < s.refs h) → ¬RefusesArgument a ∧ ∀ h, r ≠ .close h)) := by
  obtain ⟨h, s', hres, hnull, hnone, hu⟩ | ⟨hres, -⟩ := respond_fromInt hs v
  · exact .inl ⟨h, s', heq.trans hres, hnull, hu.wellFormed, hu.refs_new hnone⟩
  · refine .inr ⟨_, heq.trans hres, nofun, fun _ => ⟨?_, hclose⟩⟩
    rw [refusesArgument_iff]
    exact nofun

/-- What a call does to the reference counts. -/
theorem respond_refs (hs : s.WellFormed) (r : Request) :
    ((∀ k, r ≠ .close k) ∧ ∃ h s', respond r s = (.ok (.handle h), s') ∧ h ≠ .null ∧
      s'.WellFormed ∧
      ∀ k, s'.refs k = if k = h then min (s.refs h + 1) maxRefs else s.refs k) ∨
    (∃ h s', r = .close h ∧ 0 < s.refs h ∧ respond r s = (.ok .closed, s') ∧ s'.WellFormed ∧
      ∀ k, s'.refs k = if k = h then s.refs h - 1 else s.refs k) ∨
    (∃ a, respond r s = (a, s.counted) ∧ (∀ h, a ≠ .ok (.handle h)) ∧
      ((∀ h ∈ r.handles, 0 < s.refs h) → ¬RefusesArgument a ∧ ∀ h, r ≠ .close h)) := by
  cases r with
  | dup h =>
    cases ho : s.object? h with
    | some o =>
      obtain ⟨s', hres, hu⟩ := respond_dup hs ho
      exact .inl ⟨nofun, h, s', hres, ne_null_of_object? hs ho, hu.wellFormed, hu.refs_dup ho⟩
    | none =>
      refine .inr (.inr ⟨_, (respond_noObject ho).1, nofun, fun hargs => ?_⟩)
      have hpos := hargs h (List.mem_singleton.mpr rfl)
      rw [refs_eq_zero_of_none ho] at hpos
      exact absurd hpos (Nat.lt_irrefl 0)
  | close h =>
    by_cases hpos : 0 < s.refs h
    · obtain ⟨s', hres, hs', hrefs, -⟩ := respond_close_refs hs hpos
      exact .inr (.inl ⟨h, s', rfl, hpos, hres, hs', hrefs⟩)
    · have hnone : s.object? h = none := by
        rw [← Option.not_isSome_iff_eq_none, Option.isSome_iff_exists, ← refs_pos_iff hs]
        exact hpos
      exact .inr (.inr ⟨_, (respond_noObject hnone).2, nofun,
        fun hargs => absurd (hargs h (List.mem_singleton.mpr rfl)) hpos⟩)
  | fromInt v =>
    rcases respond_refs_new hs (v := v) rfl nofun with hhandle | hother
    · exact .inl ⟨nofun, hhandle⟩
    · exact .inr (.inr hother)
  | asInt h =>
    refine .inr (.inr ⟨_, respond_asInt s h, ?_, fun hargs => ⟨?_, nofun⟩⟩)
    · intro k
      split <;> exact nofun
    · obtain ⟨o, ho⟩ := (refs_pos_iff hs).mp (hargs h (List.mem_singleton.mpr rfl))
      rw [value_eq, ho]
      rintro ⟨text, heq⟩
      exact nomatch heq
  | same a b =>
    refine .inr (.inr ⟨_, respond_same a b s, nofun, fun _ => ⟨?_, nofun⟩⟩)
    rintro ⟨text, heq⟩
    exact nomatch heq
  | invoke op args =>
    have hinvoke := respond_invoke s op args
    cases hcompute : s.compute op args with
    | ok v =>
      rw [hcompute] at hinvoke
      -- A computed value makes an object as `fromInt` does.
      rcases respond_refs_new hs hinvoke nofun with hhandle | hother
      · exact .inl ⟨nofun, hhandle⟩
      · exact .inr (.inr hother)
    | error e =>
      rw [hcompute] at hinvoke
      refine .inr (.inr ⟨_, hinvoke, nofun, fun hargs => ⟨?_, nofun⟩⟩)
      rw [refusesArgument_iff]
      rintro ⟨h, rfl⟩
      exact compute_ne_noObject (fun k hk => (refs_pos_iff hs).mp (hargs k hk)) h hcompute

/-- A call keeps the store intact, and never answers null. -/
theorem respond_wellFormed (hs : s.WellFormed) (r : Request) :
    (respond r s).2.WellFormed ∧ (respond r s).1 ≠ .ok (.handle .null) := by
  obtain ⟨-, h, s', hres, hnull, hs', -⟩ | ⟨h, s', -, -, hres, hs', -⟩ | ⟨a, hres, ha, -⟩ :=
    respond_refs hs r
  · rw [hres]
    exact ⟨hs', by simpa using hnull⟩
  · rw [hres]
    exact ⟨hs', by simp⟩
  · rw [hres]
    exact ⟨hs.counted, ha .null⟩

/-! ### References for held handles -/

/-- An object can have more references than a table can hold handles. -/
theorem slotLimit_lt_maxRefs : Handle.slotLimit < maxRefs := by decide

/-- The store has a reference for each of the handles `held`, and if `exact` holds it has no
others. -/
structure Covers (s : ObjectStore) (exact : Prop) (held : List Handle) : Prop where
  count_le : ∀ u, u ≠ .null → held.count u ≤ s.refs u
  count_eq : exact → ∀ u, u ≠ .null → held.count u = s.refs u

namespace Covers

variable {x y : Prop} {held held' : List Handle} {u : Handle}

theorem empty : ObjectStore.empty.Covers True [] where
  count_le := by simp
  count_eq := by simp

theorem perm (hc : s.Covers x held) (hperm : held'.Perm held) : s.Covers x held' where
  count_le := fun u hu => by rw [hperm.count_eq]; exact hc.count_le u hu
  count_eq := fun hx u hu => by rw [hperm.count_eq]; exact hc.count_eq hx u hu

theorem mono (hc : s.Covers x held) (hxy : y → x) : s.Covers y held :=
  ⟨hc.count_le, fun hy => hc.count_eq (hxy hy)⟩

theorem refs_congr (hc : s.Covers x held) (hrefs : s'.refs = s.refs) : s'.Covers x held := by
  refine ⟨fun u hu => ?_, fun hx u hu => ?_⟩
  · rw [hrefs]
    exact hc.count_le u hu
  · rw [hrefs]
    exact hc.count_eq hx u hu

/-- A held handle has a reference. -/
theorem refs_pos (hc : s.Covers x held) (hu : u ≠ .null) (hmem : u ∈ held) : 0 < s.refs u := by
  have hcount := List.count_pos_iff.mpr hmem
  have hle := hc.count_le u hu
  omega

/-- A new reference covers one more handle. The number of references is not at its bound as long
as there are fewer handles than that. -/
theorem add (hc : s.Covers x held) (hlen : held.length < maxRefs)
    (hrefs : ∀ k, s'.refs k = if k = u then min (s.refs u + 1) maxRefs else s.refs k) :
    s'.Covers x (u :: held) := by
  have hbound := List.count_le_length (a := u) (l := held)
  constructor
  · intro k hk
    have hle := hc.count_le k hk
    rw [hrefs]
    by_cases hku : k = u
    · subst hku
      rw [if_pos rfl, List.count_cons_self]
      omega
    · rw [if_neg hku, List.count_cons_of_ne (Ne.symm hku)]
      exact hle
  · intro hx k hk
    have heq := hc.count_eq hx k hk
    rw [hrefs]
    by_cases hku : k = u
    · subst hku
      rw [if_pos rfl, List.count_cons_self]
      omega
    · rw [if_neg hku, List.count_cons_of_ne (Ne.symm hku)]
      exact heq

/-- Giving up a handle together with its reference keeps the balance. -/
theorem remove (hc : s.Covers x (u :: held))
    (hrefs : ∀ k, s'.refs k = if k = u then s.refs u - 1 else s.refs k) : s'.Covers x held := by
  constructor
  · intro k hk
    have hle := hc.count_le k hk
    rw [hrefs]
    by_cases hku : k = u
    · subst hku
      rw [List.count_cons_self] at hle
      rw [if_pos rfl]
      omega
    · rw [List.count_cons_of_ne (Ne.symm hku)] at hle
      rw [if_neg hku]
      exact hle
  · intro hx k hk
    have heq := hc.count_eq hx k hk
    rw [hrefs]
    by_cases hku : k = u
    · subst hku
      rw [List.count_cons_self] at heq
      rw [if_pos rfl]
      omega
    · rw [List.count_cons_of_ne (Ne.symm hku)] at heq
      rw [if_neg hku]
      exact heq

/-- Closing a held handle gives up its reference and cannot fail. The handles that are still held
keep their values. -/
theorem close (hc : s.Covers x (u :: held)) (hs : s.WellFormed) (hu : u ≠ .null) :
    ∃ s', respond (.close u) s = (.ok .closed, s') ∧ s'.WellFormed ∧ s'.Covers x held ∧
      ∀ v ∈ held, v ≠ .null → s'.value? v = s.value? v := by
  obtain ⟨s', hres, hs', hrefs, hsame⟩ :=
    respond_close_refs hs (hc.refs_pos hu List.mem_cons_self)
  have hc' : s'.Covers x held := hc.remove hrefs
  exact ⟨s', hres, hs', hc', fun v hv hnull => hsame v (hc'.refs_pos hnull hv)⟩

/-- Giving up a handle without its reference leaves a reference too many. -/
theorem drop (hc : s.Covers x (u :: held)) : s.Covers False held where
  count_le := fun k hk => by
    have hle := hc.count_le k hk
    have hsub := (List.sublist_cons_self u held).count_le k
    omega
  count_eq := nofun

/-- Where the balance is exact and there are few handles, no number of references is at its
bound. -/
theorem refs_lt (hc : s.Covers True held) (hlen : held.length < maxRefs) (hu : u ≠ .null) :
    s.refs u < maxRefs := by
  have heq := hc.count_eq trivial u hu
  have hbound := List.count_le_length (a := u) (l := held)
  omega

/-- Where the balance is exact and nothing is held, the store is empty. -/
theorem liveObjects_eq_zero (hc : s.Covers True []) (hs : s.WellFormed) : s.liveObjects = 0 := by
  rw [liveObjects_eq_length, List.length_eq_zero_iff, List.eq_nil_iff_forall_not_mem]
  intro u hu
  have hobject := (mem_liveHandles_iff hs).mp hu
  have hpos := (refs_pos_iff hs).mpr hobject
  obtain ⟨o, ho⟩ := hobject
  have heq := hc.count_eq trivial u (ne_null_of_object? hs ho)
  rw [List.count_nil] at heq
  omega

end Covers

end HandleGuard.ObjectStore
