import HandleGuard.Proofs.Context.Ideal
import HandleGuard.Proofs.Store.References
import HandleGuard.Proofs.Table.Bindings
import HandleGuard.Proofs.Table.Reuse
import Mathlib.Data.List.Forall2

/-!
# A debug context behaves as its ideal store

The simulation behind `IdealStore.Accounts`: a debug context without a hook, alone on an integer
store, represents an ideal store. Addresses are used again as soon as they are free, so the ideal
object of an address changes in the course of a run. `Represents` therefore names it by a map
`owner`, which is meant for the addresses that open handles wrap and is one-to-one there. Its other
half is the balance of references, which keeps all these addresses occupied.

* `Represents.respond`   one call, whatever its answer
* `accounts`             all runs
-/

namespace HandleGuard

open DebugContext

/-- The table and the store show an ideal store: `owner` tells the ideal object of each universal
handle that is wrapped. -/
structure Represents (s : IdealStore) (owner : Handle → Nat) (c : DebugContext × ObjectStore) :
    Prop where
  table : c.1.table.WellFormed
  store : c.2.WellFormed
  hook : c.1.hook = none
  covers : c.2.Covers True c.1.table.wrapped
  bound : s.bound.Perm (c.1.table.bindings.map fun p => (p.1, owner p.2))
  value : ∀ u ∈ c.1.table.wrapped, c.2.value? u = s.values[owner u]?
  owner_inj : ∀ u ∈ c.1.table.wrapped, ∀ v ∈ c.1.table.wrapped, owner u = owner v → u = v

namespace Represents

variable {s : IdealStore} {owner : Handle → Nat} {c : DebugContext × ObjectStore}
  {d : DebugContext} {st : ObjectStore} {h u : Handle}

/-! ### Reading handles -/

theorem bound_fst (hr : Represents s owner c) :
    (s.bound.map Prod.fst).Perm (c.1.table.bindings.map Prod.fst) := by
  refine (hr.bound.map Prod.fst).trans (.of_eq ?_)
  rw [List.map_map]
  rfl

theorem nodup_bound (hr : Represents s owner c) : (s.bound.map Prod.fst).Nodup := by
  rw [hr.bound_fst.nodup_iff, HandleTable.map_fst_bindings]
  exact HandleTable.nodup_openHandles hr.table

/-- A binding of the table is one of the ideal store. -/
theorem object?_of_mem (hr : Represents s owner c) (hmem : (h, u) ∈ c.1.table.bindings) :
    s.object? h = some (owner u) := by
  refine List.lookup_of_mem hr.nodup_bound (hr.bound.mem_iff.mpr ?_)
  exact List.mem_map_of_mem (f := fun p : Handle × Handle => (p.1, owner p.2)) hmem

theorem isOpen_iff (hr : Represents s owner c) :
    s.isOpen h = true ↔ h ∈ c.1.table.bindings.map Prod.fst := by
  rw [← hr.bound_fst.mem_iff, IdealStore.isOpen, IdealStore.object?]
  constructor
  · intro hsome
    obtain ⟨o, ho⟩ := Option.isSome_iff_exists.mp hsome
    obtain ⟨l₁, l₂, hl, -⟩ := List.lookup_eq_some_iff.mp ho
    rw [hl]
    simp
  · intro hmem
    obtain ⟨p, hp, rfl⟩ := List.mem_map.mp hmem
    rw [List.lookup_of_mem hr.nodup_bound hp]
    rfl

/-- What a debug handle is to the ideal store and what it stands for: null for null, or an open
handle. -/
inductive Reads (s : IdealStore) (owner : Handle → Nat) (c : DebugContext × ObjectStore) :
    Handle → Handle → Prop
  | null (hnone : s.object? .null = none) : Reads s owner c .null .null
  | opened {h u : Handle} (hh : h ≠ .null) (hu : u ≠ .null) (hmem : (h, u) ∈ c.1.table.bindings)
      (hwrapped : u ∈ c.1.table.wrapped) (hobject : s.object? h = some (owner u)) :
      Reads s owner c h u

/-- Null is never open. -/
theorem object?_null (hr : Represents s owner c) : s.object? .null = none := by
  rw [← Option.not_isSome_iff_eq_none]
  intro hopen
  have hmem := hr.isOpen_iff.mp hopen
  rw [HandleTable.map_fst_bindings] at hmem
  obtain ⟨o, ho, hnull⟩ := List.mem_map.mp hmem
  exact HandleTable.handle_ne_null_of_mem hr.table ho hnull

/-- A handle that is neither null nor open is refused, and all others resolve. -/
theorem resolve (hr : Represents s owner c) (h : Handle) :
    (∃ u, c.1.table.resolve h = .ok u ∧ Reads s owner c h u ∧
      (!h.isNull && !s.isOpen h) = false) ∨
    (∃ e, c.1.table.resolve h = .error e ∧ e.handle? = some h ∧
      (!h.isNull && !s.isOpen h) = true) := by
  cases hres : c.1.table.resolve h with
  | ok u =>
    refine .inl ⟨u, rfl, ?_⟩
    obtain ⟨rfl, rfl⟩ | ⟨hh, hu, hwrapped⟩ := HandleTable.resolve_ok hr.table hres
    · exact ⟨.null hr.object?_null, rfl⟩
    · have hmem := (HandleTable.mem_bindings_iff hr.table hh).mpr hres
      have hopen : s.isOpen h = true := hr.isOpen_iff.mpr (List.mem_map_of_mem hmem)
      exact ⟨.opened hh hu hmem hwrapped (hr.object?_of_mem hmem), by simp [hopen]⟩
  | error e =>
    obtain ⟨hh, he⟩ := HandleTable.resolve_error hres
    refine .inr ⟨e, rfl, he, ?_⟩
    -- An open handle would resolve.
    have hclosed : s.isOpen h = false := by
      rw [Bool.eq_false_iff, ne_eq, hr.isOpen_iff]
      intro hmem
      obtain ⟨⟨_, u⟩, hp, rfl⟩ := List.mem_map.mp hmem
      rw [(HandleTable.mem_bindings_iff hr.table hh).mp hp] at hres
      exact nomatch hres
    simp [Handle.isNull_eq_false_iff.mpr hh, hclosed]

/-- Handles are resolved up to the first that is neither null nor open. -/
theorem mapM_resolve (hr : Represents s owner c) (hs : List Handle) :
    match hs.find? fun h => !h.isNull && !s.isOpen h with
    | some h => ∃ e, hs.mapM c.1.table.resolve = .error e ∧ e.handle? = some h
    | none => ∃ us, hs.mapM c.1.table.resolve = .ok us ∧ List.Forall₂ (Reads s owner c) hs us := by
  induction hs with
  | nil => exact ⟨[], rfl, .nil⟩
  | cons h hs ih =>
    rw [List.find?_cons, List.mapM_cons]
    obtain ⟨u, hres, hreads, htest⟩ | ⟨e, hres, he, htest⟩ := hr.resolve h
    · rw [htest, hres]
      cases hfind : hs.find? fun h => !h.isNull && !s.isOpen h with
      | some k =>
        rw [hfind] at ih
        obtain ⟨e, hrest, he⟩ := ih
        rw [hrest]
        exact ⟨e, rfl, he⟩
      | none =>
        rw [hfind] at ih
        obtain ⟨us, hrest, hall⟩ := ih
        rw [hrest]
        exact ⟨u :: us, rfl, .cons hreads hall⟩
    · rw [htest, hres]
      exact ⟨e, rfl, he⟩

/-! ### Reading values -/

/-- The store has no object for null. -/
theorem value?_null (hr : Represents s owner c) : c.2.value? .null = none := by
  rw [ObjectStore.value?, Option.map_eq_none_iff, ← Option.not_isSome_iff_eq_none,
    Option.isSome_iff_exists]
  rintro ⟨o, ho⟩
  exact ObjectStore.ne_null_of_object? hr.store ho rfl

/-- The store and the ideal store agree on values, and on why there is none. -/
theorem value_eq (hr : Represents s owner c) (hreads : Reads s owner c h u) :
    c.2.value u = s.value h := by
  rw [ObjectStore.value_eq_value?, IdealStore.value]
  cases hreads with
  | null hnone =>
    rw [hr.value?_null, hnone]
    rfl
  | opened hh hu hmem hwrapped hobject =>
    have hvalue := hr.value u hwrapped
    -- A wrapped handle has a reference, so there is an object.
    have hsome : (c.2.value? u).isSome = true := by
      have hpos := hr.covers.refs_pos hu hwrapped
      obtain ⟨o, ho⟩ := (ObjectStore.refs_pos_iff hr.store).mp hpos
      rw [ObjectStore.value?, ho]
      rfl
    obtain ⟨v, hv⟩ := Option.isSome_iff_exists.mp hsome
    rw [hobject, Option.bind_some, ← hvalue, hv]

/-- Both stores compute the same, on handles that are read alike. -/
theorem compute_eq (hr : Represents s owner c) (op : OpId) {args us : List Handle}
    (hreads : List.Forall₂ (Reads s owner c) args us) : c.2.compute op us = s.compute op args := by
  -- Both look at two arguments at most.
  cases hreads with
  | nil => rfl
  | cons ha hrest =>
    cases hrest with
    | nil => simp only [ObjectStore.compute, IdealStore.compute, hr.value_eq ha]; rfl
    | cons hb hrest =>
      cases hrest with
      | nil => simp only [ObjectStore.compute, IdealStore.compute, hr.value_eq ha, hr.value_eq hb]; rfl
      | cons _ hrest =>
        have hlen := hrest.length_eq
        simp only [ObjectStore.compute, IdealStore.compute, List.length_cons, hlen]

/-- Universal handles are equal iff the debug handles are of one object, or both null. -/
theorem same_eq (hr : Represents s owner c) {a b ua ub : Handle} (ha : Reads s owner c a ua)
    (hb : Reads s owner c b ub) : (ua == ub) = (s.object? a == s.object? b) := by
  -- Owners are one-to-one on the wrapped handles, and null has none.
  cases ha with
  | null hnone =>
    cases hb with
    | null => simp
    | opened hh hu hmem hwrapped hobject => simp [hnone, hobject, Ne.symm hu]
  | opened hh hu hmem hwrapped hobject =>
    cases hb with
    | null hnone => simp [hnone, hobject, hu]
    | opened hh' hu' hmem' hwrapped' hobject' =>
      rw [Bool.eq_iff_iff, beq_iff_eq, beq_iff_eq, hobject, hobject', Option.some.injEq]
      exact ⟨congrArg owner, hr.owner_inj ua hwrapped ub hwrapped'⟩

/-! ### Counting objects -/

/-- The objects of the store are the universal handles that are wrapped. -/
theorem mem_liveHandles_iff (hr : Represents s owner c) :
    u ∈ c.2.liveHandles ↔ u ∈ c.1.table.wrapped := by
  rw [ObjectStore.mem_liveHandles_iff hr.store, ← ObjectStore.refs_pos_iff hr.store]
  constructor
  · intro hpos
    obtain ⟨o, ho⟩ := (ObjectStore.refs_pos_iff hr.store).mp hpos
    have heq := hr.covers.count_eq trivial u (ObjectStore.ne_null_of_object? hr.store ho)
    exact List.count_pos_iff.mp (heq ▸ hpos)
  · intro hu
    exact hr.covers.refs_pos (HandleTable.wrapped_ne_null hr.table hu) hu

/-- There is always an address left. -/
theorem liveObjects_lt (hr : Represents s owner c) :
    c.2.liveObjects + 1 ≠ Numeral.wordLimit := by
  -- Each object has an open handle, and a table holds far fewer handles than there are addresses.
  have hle : c.2.liveHandles.length ≤ c.1.table.wrapped.length :=
    (ObjectStore.nodup_liveHandles hr.store).length_le_of_subset
      fun u hu => hr.mem_liveHandles_iff.mp hu
  have hlt := HandleTable.length_wrapped_lt hr.table
  rw [ObjectStore.liveObjects_eq_length]
  simp only [Handle.slotLimit, Numeral.wordLimit] at *
  omega

/-- The objects that are bound in the ideal store are those of the wrapped handles. -/
theorem mem_bound_snd_iff (hr : Represents s owner c) {o : Nat} :
    o ∈ s.bound.map Prod.snd ↔ ∃ u ∈ c.1.table.wrapped, owner u = o := by
  rw [(hr.bound.map Prod.snd).mem_iff, List.map_map, HandleTable.wrapped]
  simp only [List.mem_map, Function.comp_apply, exists_exists_and_eq_and]

/-- The ideal object of a wrapped handle has a number. -/
theorem owner_lt (hr : Represents s owner c) (hu : u ∈ c.1.table.wrapped) :
    owner u < s.values.length := by
  have hlive := hr.mem_liveHandles_iff.mpr hu
  obtain ⟨o, ho⟩ := (ObjectStore.mem_liveHandles_iff hr.store).mp hlive
  have hvalue := hr.value u hu
  rw [ObjectStore.value?, ho] at hvalue
  exact (List.getElem?_eq_some_iff.mp hvalue.symm).1

/-- The store has one object for each ideal object with a handle. -/
theorem liveObjects_eq (hr : Represents s owner c) : c.2.liveObjects = s.liveObjects := by
  rw [ObjectStore.liveObjects_eq_length, IdealStore.liveObjects, List.countP_eq_length_filter,
    ← List.length_map owner]
  refine List.Perm.length_eq ((List.perm_ext_iff_of_nodup ?_ (List.nodup_range.filter _)).mpr ?_)
  · -- Different objects of the store have different owners.
    rw [List.Nodup, List.pairwise_map]
    refine (ObjectStore.nodup_liveHandles hr.store).imp_of_mem fun {u v} hu hv hne heq => hne ?_
    exact hr.owner_inj u (hr.mem_liveHandles_iff.mp hu) v (hr.mem_liveHandles_iff.mp hv) heq
  · intro o
    rw [List.mem_map, List.mem_filter, List.contains_iff_mem, hr.mem_bound_snd_iff, List.mem_range]
    simp only [hr.mem_liveHandles_iff]
    constructor
    · intro ⟨u, hu, howner⟩
      exact ⟨howner ▸ hr.owner_lt hu, u, hu, howner⟩
    · intro ⟨_, hbound⟩
      exact hbound

/-- A represented ideal store shows in the open handles and in the number of objects. -/
theorem shows (hr : Represents s owner c) : s.Matches c where
  isOpen := fun h => by
    rw [hr.isOpen_iff, HandleTable.map_fst_bindings, List.mem_map]
  liveObjects := hr.liveObjects_eq

/-! ### Calls -/

/-- The universal context: the store, beside the debug context. -/
abbrev universal : Universal (DebugContext × ObjectStore) := Universal.beside ObjectStore.respond

/-- Only the table, the hook and the objects matter. -/
theorem congr (hr : Represents s owner (d, st)) {d' : DebugContext} {st' : ObjectStore}
    (htable : d'.table = d.table) (hhook : d'.hook = d.hook) (hobjects : st'.objects = st.objects) :
    Represents s owner (d', st') := by
  refine ⟨?_, ObjectStore.wellFormed_congr hobjects hr.store, hhook.trans hr.hook, ?_, ?_, ?_, ?_⟩
  · rw [htable]
    exact hr.table
  · rw [htable]
    exact hr.covers.refs_congr (ObjectStore.refs_congr hobjects)
  · rw [htable]
    exact hr.bound
  · rw [htable, ObjectStore.value?_congr hobjects]
    exact hr.value
  · rw [htable]
    exact hr.owner_inj

/-- Without a hook a failed check leaves its mark in the log only. -/
theorem report (hr : Represents s owner (d, st)) (e : DebugError) :
    DebugContext.report .first universal e (d, st) = (d.record e, st) :=
  report_of_hook_none universal e hr.hook st

/-- A universal handle `u` that awaits a debug handle. The store has become `st₁` and holds a
reference for it, its ideal object is `owner' u`, and `values` are those of all ideal objects with
this one. -/
structure Awaits (s : IdealStore) (owner : Handle → Nat) (d : DebugContext) (st : ObjectStore)
    (u : Handle) (st₁ : ObjectStore) (owner' : Handle → Nat) (values : List Int64) : Prop where
  ne_null : u ≠ .null
  store : st₁.WellFormed
  refs : ∀ k, st₁.refs k = if k = u then min (st.refs u + 1) ObjectStore.maxRefs else st.refs k
  same : ∀ v ∈ d.table.wrapped, st₁.value? v = st.value? v
  owner_old : ∀ v ∈ d.table.wrapped, owner' v = owner v
  values_old : ∀ v ∈ d.table.wrapped, values[owner v]? = s.values[owner v]?
  value_new : st₁.value? u = values[owner' u]?
  owner_new : ∀ v ∈ d.table.wrapped, owner' u = owner v → u = v

variable {st₁ : ObjectStore} {owner' : Handle → Nat} {values : List Int64}

/-- The new reference is the one that the awaiting handle needs. -/
theorem Awaits.covers (hw : Awaits s owner d st u st₁ owner' values)
    (hr : Represents s owner (d, st)) : st₁.Covers True (u :: d.table.wrapped) :=
  hr.covers.add (Nat.lt_trans (HandleTable.length_wrapped_lt hr.table)
    ObjectStore.slotLimit_lt_maxRefs) hw.refs

/-- With a debug handle for the awaiting handle, the ideal store has one more binding. -/
private theorem bind (hr : Represents s owner (d, st))
    (hw : Awaits s owner d st u st₁ owner' values) {t : HandleTable} (ht : t.WellFormed)
    (hperm : t.bindings.Perm ((h, u) :: d.table.bindings)) :
    Represents ⟨values, (h, owner' u) :: s.bound⟩ owner' ({ d with table := t }, st₁) := by
  have hwrapped : t.wrapped.Perm (u :: d.table.wrapped) := hperm.map Prod.snd
  refine ⟨ht, hw.store, hr.hook, (hw.covers hr).perm hwrapped, ?_, ?_, ?_⟩
  · refine ((hr.bound.cons (h, owner' u)).trans ?_).trans (hperm.map _).symm
    rw [List.map_cons]
    refine .cons _ (.of_eq (List.map_congr_left fun p hp => ?_))
    rw [hw.owner_old p.2 (List.mem_map_of_mem hp)]
  · intro v hv
    rcases List.mem_cons.mp (hwrapped.mem_iff.mp hv) with rfl | hv
    · exact hw.value_new
    · show st₁.value? v = values[owner' v]?
      rw [hw.same v hv, hw.owner_old v hv, hw.values_old v hv]
      exact hr.value v hv
  · intro v hv w hw' heq
    -- Two old owners differ as before, and the new one is compared with the old.
    rcases List.mem_cons.mp (hwrapped.mem_iff.mp hv) with rfl | hv
    · rcases List.mem_cons.mp (hwrapped.mem_iff.mp hw') with rfl | hw'
      · rfl
      · exact hw.owner_new w hw' (heq.trans (hw.owner_old w hw'))
    · rcases List.mem_cons.mp (hwrapped.mem_iff.mp hw') with rfl | hw'
      · exact (hw.owner_new v hv (heq.symm.trans (hw.owner_old v hv))).symm
      · rw [hw.owner_old v hv, hw.owner_old w hw'] at heq
        exact hr.owner_inj v hv w hw' heq

/-- An awaiting handle that gets no debug handle can be closed, and then all is as before. -/
private theorem giveBack (hr : Represents s owner (d, st))
    (hw : Awaits s owner d st u st₁ owner' values) :
    ∃ st₂, ObjectStore.respond (.close u) st₁ = (.ok .closed, st₂) ∧
      Represents s owner (d, st₂) := by
  obtain ⟨st₂, hres, hst₂, hcovers, hsame⟩ := (hw.covers hr).close hw.store hw.ne_null
  refine ⟨st₂, hres, { hr with store := hst₂, covers := hcovers, value := fun v hv => ?_ }⟩
  show st₂.value? v = s.values[owner v]?
  rw [hsame v hv (HandleTable.wrapped_ne_null hr.table hv), hw.same v hv]
  exact hr.value v hv

/-- Wrapping an awaiting handle. Either it gets a debug handle or, in a full table, it is closed
again and all is as before. -/
theorem wrap (hr : Represents s owner (d, st)) (hw : Awaits s owner d st u st₁ owner' values) :
    ∃ a c' s' owner'', DebugContext.wrap .first universal u (d, st₁) = (a, c') ∧
      s.Issues d.table.capacity d.table.closedHandles
        (fun h => ⟨values, (h, owner' u) :: s.bound⟩) a s' ∧
      Represents s' owner'' c' := by
  have hcount : s.bound.length = d.table.openCount := by
    rw [hr.bound.length_eq, List.length_map]
    exact HandleTable.length_bindings hr.table
  rw [DebugContext.wrap, openHandle, checkOpen, check_first]
  obtain ⟨h, t, hopen, ht, -, hperm⟩ | ⟨hfull, hopenCount⟩ :=
    HandleTable.openHandle_bindings hr.table hw.ne_null
  · have hok := congrArg Prod.fst hopen
    -- The new handle is one the ideal store may choose.
    obtain ⟨hclosed, hremembered⟩ := HandleTable.issued_fresh hr.table hw.ne_null hok
    refine ⟨.ok (.handle h), ({ d with table := t }, st₁), _, owner', ?_,
      .inl ⟨?_, h, rfl, HandleTable.issued_ne_null hr.table hw.ne_null hok, ?_, hremembered, rfl⟩,
      hr.bind hw ht hperm⟩
    · rw [hopen]
    · rw [hcount]
      exact HandleTable.openCount_lt_capacity hr.table hw.ne_null hok
    · rw [Bool.eq_false_iff, ne_eq, hr.isOpen_iff, HandleTable.map_fst_bindings]
      exact hclosed
  · obtain ⟨st₂, hres, hr₂⟩ := hr.giveBack hw
    refine ⟨.error (.check (.tableFull d.table.capacity)),
      (d.record (.tableFull d.table.capacity), st₂), s, owner, ?_,
      .inr ⟨hcount.trans hopenCount, rfl, rfl⟩,
      hr₂.congr (record_table d _) (record_hook d _) rfl⟩
    rw [show d.table.openHandle u = _ from hfull]
    show (_, (universal (.close u) (DebugContext.report .first universal _ (d, st₁))).2) = _
    rw [report_of_hook_none universal _ hr.hook st₁]
    simp only [Universal.beside, hres]

/-- What it takes to account for one call: an answer the ideal store explains, and a state that
represents the ideal store afterwards. -/
def Accounted (s : IdealStore) (d : DebugContext) (r : Request)
    (p : Except CallError Reply × DebugContext × ObjectStore) : Prop :=
  ∃ a c' s' owner, p = (a, c') ∧
    s.Explains d.table.capacity d.table.closedHandles r a s' ∧ Represents s' owner c'

/-- A call that asks for another handle to the object of `u`. -/
private theorem share (hr : Represents s owner (d, st)) {r : Request}
    (hu : u ∈ d.table.wrapped) (hdemand : s.demand r = .share (owner u)) :
    Accounted s d r (forward .first universal (.dup u) (d, st)) := by
  have hpos := hr.covers.refs_pos (HandleTable.wrapped_ne_null hr.table hu) hu
  obtain ⟨o, ho⟩ := (ObjectStore.refs_pos_iff hr.store).mp hpos
  obtain ⟨st₁, hres, hupdate⟩ := ObjectStore.respond_dup hr.store ho
  have hsame : ∀ v, st₁.value? v = st.value? v := by
    intro v
    rw [hupdate.value?]
    split
    · rename_i hv
      rw [hv, ObjectStore.value?, ho]
      rfl
    · rfl
  have hawaits : Awaits s owner d st u st₁ owner s.values := {
    ne_null := HandleTable.wrapped_ne_null hr.table hu
    store := hupdate.wellFormed
    refs := hupdate.refs_dup ho
    same := fun v _ => hsame v
    owner_old := fun _ _ => rfl
    values_old := fun _ _ => rfl
    value_new := (hsame u).trans (hr.value u hu)
    owner_new := fun v hv => hr.owner_inj u hu v hv }
  obtain ⟨a, c', s', owner', hwrap, hissues, hr'⟩ := hr.wrap hawaits
  refine ⟨a, c', s', owner', ?_, ?_, hr'⟩
  · simp only [forward, Universal.beside, hres]
    exact hwrap
  · rw [IdealStore.Explains, hdemand]
    exact hissues

/-- A call that asks for a handle to a new object. -/
private theorem create (hr : Represents s owner (d, st)) {r r' : Request} {v : Int64}
    (hcall : ObjectStore.respond r' st = ObjectStore.respond (.fromInt v) st)
    (hdemand : s.demand r = .create v) :
    Accounted s d r (forward .first universal r' (d, st)) := by
  obtain ⟨u, st₁, hres, hu, hnone, hupdate⟩ | ⟨-, hfull⟩ :=
    ObjectStore.respond_fromInt hr.store v
  · -- The address is new to the table, so it may get a new owner.
    have hnew : u ∉ d.table.wrapped := by
      intro hmem
      have hpos : 0 < st.refs u := hr.covers.refs_pos hu hmem
      rw [ObjectStore.refs_eq_zero_of_none hnone] at hpos
      exact Nat.lt_irrefl 0 hpos
    have hne : ∀ k ∈ d.table.wrapped, k ≠ u := fun k hk hku => hnew (hku ▸ hk)
    have hawaits : Awaits s owner d st u st₁
        (fun k => if k = u then s.values.length else owner k) (s.values ++ [v]) := {
      ne_null := hu
      store := hupdate.wellFormed
      refs := hupdate.refs_new hnone
      same := fun k hk => by rw [hupdate.value?, if_neg (hne k hk)]
      owner_old := fun k hk => if_neg (hne k hk)
      values_old := fun k hk => List.getElem?_append_left (hr.owner_lt hk)
      value_new := by
        rw [hupdate.value?, if_pos rfl, if_pos rfl, List.getElem?_concat_length]
        rfl
      owner_new := fun k hk heq => by
        rw [if_pos rfl] at heq
        exact absurd (hr.owner_lt hk) (by omega) }
    obtain ⟨a, c', s', owner', hwrap, hissues, hr'⟩ := hr.wrap hawaits
    refine ⟨a, c', s', owner', ?_, ?_, hr'⟩
    · simp only [forward, Universal.beside, hcall, hres]
      exact hwrap
    · rw [IdealStore.Explains, hdemand]
      simp only [↓reduceIte] at hissues
      exact hissues
  · -- There is always an address left.
    exact absurd hfull hr.liveObjects_lt

/-- A call that changes no object. -/
private theorem unchanged (hr : Represents s owner (d, st)) {r r' : Request}
    {a : Except CallError Reply} (hcall : ObjectStore.respond r' st = (a, st.counted))
    (ha : ∀ u, a ≠ .ok (.handle u)) (hexplains : ∀ capacity remembered,
      s.Explains capacity remembered r a s) :
    Accounted s d r (forward .first universal r' (d, st)) := by
  refine ⟨a, (d, st.counted), s, owner, ?_, hexplains _ _, hr.congr rfl rfl rfl⟩
  simp only [forward, Universal.beside, hcall]

/-- A call of which an argument is neither null nor open. -/
private theorem refused (hr : Represents s owner (d, st)) {r : Request} {e : DebugError}
    (he : e.handle? = some h) (hdemand : s.demand r = .refuse h) :
    Accounted s d r (.error (.check e), DebugContext.report .first universal e (d, st)) := by
  exact ⟨_, (d.record e, st), s, owner, by rw [hr.report],
    IdealStore.explains_refuse hdemand he _ _,
    hr.congr (record_table d e) (record_hook d e) rfl⟩

/-- A handle that leaves the table gives back its reference, and its binding is gone. -/
private theorem unbind (hr : Represents s owner (d, st)) (hu : u ≠ .null) {t : HandleTable}
    (ht : t.WellFormed) (hperm : d.table.bindings.Perm ((h, u) :: t.bindings)) :
    ∃ st', ObjectStore.respond (.close u) st = (.ok .closed, st') ∧
      Represents (s.unbind h) owner ({ d with table := t }, st') := by
  have hwrapped : d.table.wrapped.Perm (u :: t.wrapped) := hperm.map Prod.snd
  obtain ⟨st', hres, hst', hcovers, hsame⟩ := (hr.covers.perm hwrapped.symm).close hr.store hu
  have hsub : ∀ v ∈ t.wrapped, v ∈ d.table.wrapped := fun v hv =>
    hwrapped.mem_iff.mpr (List.mem_cons_of_mem u hv)
  refine ⟨st', hres, ht, hst', hr.hook, hcovers, ?_, ?_, ?_⟩
  · -- No other binding has this handle.
    have hkeep : ((t.bindings.map fun p => (p.1, owner p.2)).filter fun p => p.1 ≠ h) =
        t.bindings.map fun p => (p.1, owner p.2) := by
      refine List.filter_eq_self.mpr fun p hp => ?_
      obtain ⟨b, hb, rfl⟩ := List.mem_map.mp hp
      have hne := HandleTable.fst_ne_of_perm hr.table hperm b hb
      simpa using hne
    have hbound := (hr.bound.trans (hperm.map _)).filter fun p => p.1 ≠ h
    rw [List.map_cons, List.filter_cons_of_neg (by simp), hkeep] at hbound
    exact hbound
  · intro v hv
    show st'.value? v = s.values[owner v]?
    rw [hsame v hv (HandleTable.wrapped_ne_null ht hv)]
    exact hr.value v (hsub v hv)
  · intro v hv w hw
    exact hr.owner_inj v (hsub v hv) w (hsub w hw)

/-- Closing unbinds an open handle. -/
private theorem close (hr : Represents s owner (d, st)) (h : Handle) :
    Accounted s d (.close h) (DebugContext.respond .first universal (.close h) (d, st)) := by
  show Accounted s d _ (closeThrough .first universal _ h (d, st))
  rw [closeThrough, checkClose, check_first]
  obtain ⟨hh, hclose⟩ | ⟨u, t, hclose, hh, hu, ht, -, hperm⟩ | ⟨e, hclose, hh, he⟩ :=
    HandleTable.close_bindings hr.table h
  · -- Null stays null.
    subst hh
    rw [hclose]
    exact ⟨.ok .closed, (d, st), s, owner, rfl, IdealStore.explains_reply rfl _ _, hr⟩
  · have hnull : u.isNull = false := Handle.isNull_eq_false_iff.mpr hu
    have hmem : (h, u) ∈ d.table.bindings := hperm.mem_iff.mpr List.mem_cons_self
    have hopen : s.isOpen h = true := hr.isOpen_iff.mpr (List.mem_map_of_mem hmem)
    obtain ⟨st', hres, hr'⟩ := hr.unbind hu ht hperm
    refine ⟨.ok .closed, ({ d with table := t }, st'), s.unbind h, owner, ?_, ?_, hr'⟩
    · rw [hclose]
      simp only [hnull, Bool.false_eq_true, ↓reduceIte, Universal.beside, hres]
    · have hdemand : s.demand (.close h) = .unbind h := by
        simp [IdealStore.demand, Request.handles, hopen, Handle.isNull_eq_false_iff.mpr hh]
      exact IdealStore.explains_unbind hdemand _ _
  · -- A value that is refused would resolve if it were open.
    have htest : (!h.isNull && !s.isOpen h) = true := by
      obtain ⟨u, hres, -, -⟩ | ⟨_, -, -, htest⟩ := hr.resolve h
      · have hok := (HandleTable.close_eq_ok_iff hr.table).mpr hres
        rw [hclose] at hok
        cases hok
      · exact htest
    have hdemand : s.demand (.close h) = .refuse h := by
      simp only [IdealStore.demand, Request.handles, List.find?_cons, htest]
    rw [hclose]
    exact hr.refused he hdemand

/-- A call other than `close` whose handles are all null or open is passed on, with what they stand
for. -/
private theorem passOn (hr : Represents s owner (d, st)) {r : Request} {us : List Handle}
    (hclose : ∀ h, r ≠ .close h)
    (hfind : (r.handles.find? fun h => !h.isNull && !s.isOpen h) = none)
    (hreads : List.Forall₂ (Reads s owner (d, st)) r.handles us) :
    Accounted s d r (forward .first universal (r.withHandles us) (d, st)) := by
  cases r with
  | close h => exact absurd rfl (hclose h)
  | dup h =>
    obtain ⟨u, _, hread, hnil, rfl⟩ := List.forall₂_cons_left_iff.mp hreads
    cases hnil
    cases hread with
    | null hnone =>
      have hnull : st.object? .null = none := Option.map_eq_none_iff.mp hr.value?_null
      exact hr.unchanged (ObjectStore.respond_noObject hnull).1 nofun
        (IdealStore.explains_fail (by simp only [IdealStore.demand, hfind, hnone]))
    | opened hh hu hmem hwrapped hobject =>
      exact hr.share hwrapped (by simp only [IdealStore.demand, hfind, hobject])
  | fromInt v =>
    cases hreads
    exact hr.create rfl rfl
  | asInt h =>
    obtain ⟨u, _, hread, hnil, rfl⟩ := List.forall₂_cons_left_iff.mp hreads
    cases hnil
    have hvalue := hr.value_eq hread
    have hres := ObjectStore.respond_asInt st u
    cases hideal : s.value h with
    | ok v =>
      rw [show st.value u = .ok v from hvalue.trans hideal] at hres
      exact hr.unchanged hres nofun
        (IdealStore.explains_reply (by simp only [IdealStore.demand, hfind, hideal]))
    | error e =>
      rw [show st.value u = .error e from hvalue.trans hideal] at hres
      exact hr.unchanged hres nofun
        (IdealStore.explains_fail (by simp only [IdealStore.demand, hfind, hideal]))
  | same a b =>
    obtain ⟨ua, _, ha, hrest, rfl⟩ := List.forall₂_cons_left_iff.mp hreads
    obtain ⟨ub, _, hb, hnil, rfl⟩ := List.forall₂_cons_left_iff.mp hrest
    cases hnil
    have hsame : (ua == ub) = (s.object? a == s.object? b) := hr.same_eq ha hb
    refine hr.unchanged (ObjectStore.respond_same ua ub st) nofun
      (IdealStore.explains_reply ?_)
    simp only [IdealStore.demand, hfind, hsame]
  | invoke op args =>
    have hcompute := hr.compute_eq op hreads
    have hinvoke := ObjectStore.respond_invoke st op us
    cases hideal : s.compute op args with
    | ok v =>
      rw [show st.compute op us = .ok v from hcompute.trans hideal] at hinvoke
      exact hr.create hinvoke (by simp only [IdealStore.demand, hfind, hideal])
    | error e =>
      rw [show st.compute op us = .error e from hcompute.trans hideal] at hinvoke
      exact hr.unchanged hinvoke nofun
        (IdealStore.explains_fail (by simp only [IdealStore.demand, hfind, hideal]))

/-- Every call on the debug context is accounted for. -/
theorem respond (hr : Represents s owner (d, st)) (r : Request) :
    Accounted s d r (DebugContext.respond .first universal r (d, st)) := by
  by_cases hclose : ∃ h, r = .close h
  · obtain ⟨h, rfl⟩ := hclose
    exact hr.close h
  · have hne : ∀ h, r ≠ .close h := fun h hh => hclose ⟨h, hh⟩
    rw [respond_first _ hne]
    have hargs := hr.mapM_resolve r.handles
    cases hfind : r.handles.find? fun h => !h.isNull && !s.isOpen h with
    | some h =>
      rw [hfind] at hargs
      obtain ⟨e, hres, he⟩ := hargs
      have hdemand : s.demand r = .refuse h := by simp only [IdealStore.demand, hfind]
      rw [hres]
      exact hr.refused he hdemand
    | none =>
      rw [hfind] at hargs
      obtain ⟨us, hres, hreads⟩ := hargs
      rw [hres]
      exact hr.passOn hne hfind hreads

end Represents

/-- A context that represents an ideal store is accounted for in every run. -/
theorem Represents.accounts {s : IdealStore} {owner : Handle → Nat}
    {c : DebugContext × ObjectStore} (hr : Represents s owner c) (rs : List Request) :
    s.Accounts c rs := by
  -- Induction on the calls, for all ideal stores and owners: each call makes its own.
  induction rs generalizing s owner c with
  | nil => exact hr.shows
  | cons r rs ih =>
    obtain ⟨d, st⟩ := c
    obtain ⟨a, c', s', owner', hres, hexplains, hr'⟩ := hr.respond r
    rw [IdealStore.Accounts, hres]
    exact ⟨hr.shows, s', hexplains, ih hr'⟩

/-- The answers of a debug context are those of its ideal store. In every run of calls, with any
handle values, on a debug context without a hook that is alone on a new integer store, the ideal
store explains each answer, its open handles are those of the context, and its objects with handles
are as many as the store has. -/
theorem answers_as_ideal (d : DebugContext) (tag closedQueueMax capacity : Nat)
    (htable : d.table = .withCapacity tag closedQueueMax capacity) (hhook : d.hook = none)
    (rs : List Request) : IdealStore.empty.Accounts (d, .empty) rs := by
  have hempty : d.table.bindings = [] := by
    rw [htable]
    exact HandleTable.bindings_withCapacity tag closedQueueMax capacity
  have hwrapped : d.table.wrapped = [] := by rw [HandleTable.wrapped, hempty, List.map_nil]
  have hinit : Represents .empty (fun _ => 0) (d, .empty) := by
    refine ⟨?_, ObjectStore.empty_wellFormed, hhook, ?_, ?_, ?_, ?_⟩
    · rw [htable]
      exact HandleTable.withCapacity_wellFormed tag closedQueueMax capacity
    · rw [hwrapped]
      exact ObjectStore.Covers.empty
    · rw [hempty]
      exact .refl _
    · rw [hwrapped]
      exact List.forall_mem_nil _
    · rw [hwrapped]
      exact List.forall_mem_nil _
  exact hinit.accounts rs

/-- A duplicate that finds no room, a closed handle that is used again, and a handle that reuses both
its slot and the address of its object. -/
theorem answers_as_ideal_full_table :
    let d : DebugContext := { (default : DebugContext) with table := .withCapacity 3 1 1 }
    let first : Handle := ⟨0x30000001⟩
    let second : Handle := ⟨0x1030000001⟩
    let rs : List Request := [.fromInt 5, .dup first, .asInt first, .close first, .asInt first,
      .fromInt 7, .same first second, .invoke ObjectStore.negOp [second]]
    d.table = .withCapacity 3 1 1 ∧ d.hook = none ∧ IdealStore.empty.Accounts (d, .empty) rs := by
  intro d first second rs
  exact ⟨rfl, rfl, answers_as_ideal d 3 1 1 rfl rfl rs⟩

end HandleGuard
