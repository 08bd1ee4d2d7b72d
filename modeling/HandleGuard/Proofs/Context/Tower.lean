import HandleGuard.Proofs.Context.Detached
import HandleGuard.Proofs.Context.Step
import HandleGuard.Proofs.Diagnostic.Log
import HandleGuard.Proofs.Store.References

/-!
# Towers of debug contexts

Debug contexts can be stacked. In a tower each one is the universal context of the next, and only the
top is used from outside. A tower lends handles: those that it answered and that were not given back.
To the next context up these are the universal handles that its open handles stand for, so what one
level lends, the next one wraps, down to the references that the store counts (`Forest.Lends`).

Whatever is asked of the top, the levels stay in step (`Forest.serves`). The lower ones are only
ever given what they lent, and so find nothing wrong with it; all they can fail at is to issue a
handle when they are full.

* `Forest.Tower`          a new tower on an empty store
* `Forest.Lends`          a tower in use, with the handles it lends
* `Forest.serves`         one call on the top
* `Forest.tower_sound`    any run of calls on the top
-/

namespace HandleGuard

/-- A debug context that was not used yet, of any size. -/
structure DebugContext.Fresh (d : DebugContext) : Prop where
  table : ∃ tag closedQueueMax capacity, d.table = .withCapacity tag closedQueueMax capacity
  log : ∃ max, d.log = .new max
  idle : d.Idle

/-- All that the context ever recorded is that its table was full. -/
def DebugContext.Calm (d : DebugContext) : Prop :=
  ∃ es, d.Recorded es ∧ ∀ e ∈ es, ∃ capacity, e = .tableFull capacity

theorem DebugContext.Fresh.calm {d : DebugContext} (h : d.Fresh) : d.Calm := by
  obtain ⟨max, hlog⟩ := h.log
  refine ⟨[], ?_, List.forall_mem_nil _⟩
  unfold Recorded
  rw [hlog]
  exact .new max

theorem DebugContext.Calm.withTable {d : DebugContext} (h : d.Calm) (table : HandleTable) :
    { d with table }.Calm := by
  obtain ⟨es, hes, hfull⟩ := h
  exact ⟨es, hes.congr rfl rfl, hfull⟩

theorem DebugContext.Calm.record_full {d : DebugContext} (h : d.Calm) (capacity : Nat) :
    (d.record (.tableFull capacity)).Calm := by
  obtain ⟨es, hes, hfull⟩ := h
  refine ⟨es ++ [.tableFull capacity], hes.record _, ?_⟩
  simp only [List.forall_mem_append, List.forall_mem_singleton]
  exact ⟨hfull, capacity, rfl⟩

namespace HandleTable

/-- The open handles. -/
def opened (t : HandleTable) : List Handle := (t.openHandles 0).map OpenHandle.handle

theorem map_fst_bindings_eq_opened (t : HandleTable) : t.bindings.map Prod.fst = t.opened :=
  t.map_fst_bindings

theorem ne_null_of_mem_opened {t : HandleTable} (ht : t.WellFormed) {h : Handle}
    (hh : h ∈ t.opened) : h ≠ .null := by
  obtain ⟨o, ho, rfl⟩ := List.mem_map.mp hh
  exact handle_ne_null_of_mem ht ho

theorem nodup_opened {t : HandleTable} (ht : t.WellFormed) : t.opened.Nodup := nodup_openHandles ht

theorem length_opened_lt {t : HandleTable} (ht : t.WellFormed) :
    t.opened.length < ObjectStore.maxRefs := by
  have hlen := length_wrapped_lt ht
  have hlimit := ObjectStore.slotLimit_lt_maxRefs
  rw [wrapped, bindings, List.length_map, List.length_map] at hlen
  rw [opened, List.length_map]
  omega

end HandleTable

namespace Forest

/-- The context that the levels `is`, from the top down, show on top of the store `root`. -/
def topOf (root : Nat) : List Nat → ContextRef
  | [] => .store root
  | i :: _ => .debug i

/-- The levels `is`, from the top down, are a new tower on the empty store `root`. -/
inductive Tower (s : Forest) (root : Nat) : List Nat → Prop
  | store {n : NamedStore} (hn : s.stores[root]? = some n) (hempty : n.store = .empty) :
    Tower s root []
  | debug {i : Nat} {is : List Nat} {c : AttachedContext} (hc : s.contexts[i]? = some c)
    (hu : c.universal = topOf root is) (hlow : height c.universal < height (.debug i))
    (hfresh : c.context.Fresh) (hbelow : Tower s root is) : Tower s root (i :: is)

/-- All that context `i` ever recorded is that its table was full. -/
def Calm (s : Forest) (i : Nat) : Prop := ∃ c, s.contexts[i]? = some c ∧ c.context.Calm

/-- The levels `is` are a tower that lends the handles `held`: for each level they are its open
handles, and the level below lends what they stand for. All levels below the top are calm. -/
inductive Lends (s : Forest) (root : Nat) : List Nat → List Handle → Prop
  | store {n : NamedStore} {held : List Handle} (hn : s.stores[root]? = some n)
    (hs : n.store.WellFormed) (hcovers : n.store.Covers True held) : Lends s root [] held
  | debug {i : Nat} {is : List Nat} {held : List Handle} {c : AttachedContext}
    (hc : s.contexts[i]? = some c) (hu : c.universal = topOf root is)
    (hlow : height c.universal < height (.debug i)) (hidle : c.context.Idle)
    (ht : c.context.table.WellFormed) (hheld : held.Perm c.context.table.opened)
    (hbelow : Lends s root is c.context.table.wrapped) (hcalm : ∀ j ∈ is, s.Calm j) :
    Lends s root (i :: is) held

/-- What a call on a tower that lends `held` does to it. -/
inductive Lent (s : Forest) (root : Nat) (is : List Nat) (held : List Handle) (r : Request) :
    Except CallError Reply → Prop
  | lent {u : Handle} (hr : ∀ k, r ≠ .close k) (hu : u ≠ .null)
    (h : s.Lends root is (u :: held)) : Lent s root is held r (.ok (.handle u))
  | returned {u : Handle} {held' : List Handle} (hr : r = .close u) (hheld : held.Perm (u :: held'))
    (h : s.Lends root is held') : Lent s root is held r (.ok .closed)
  | kept {a : Except CallError Reply} (ha : ∀ u, a ≠ .ok (.handle u))
    (hr : ∀ u ∈ held, u ≠ .null → r ≠ .close u) (h : s.Lends root is held) :
    Lent s root is held r a

variable {s : Forest} {root i : Nat} {is : List Nat} {held held' : List Handle} {r : Request}

namespace Lends

theorem perm (h : s.Lends root is held) (hperm : held'.Perm held) : s.Lends root is held' := by
  cases h with
  | store hn hs hcovers => exact .store hn hs (hcovers.perm hperm)
  | debug hc hu hlow hidle ht hheld hbelow hcalm =>
    exact .debug hc hu hlow hidle ht (hperm.trans hheld) hbelow hcalm

theorem length_lt (h : s.Lends root (i :: is) held) : held.length < ObjectStore.maxRefs := by
  cases h with
  | debug _ _ _ _ ht hheld =>
    rw [hheld.length_eq]
    exact HandleTable.length_opened_lt ht

/-- All levels below the top are calm. -/
theorem calm (h : s.Lends root (i :: is) held) : ∀ j ∈ is, s.Calm j := by
  cases h with
  | debug _ _ _ _ _ _ _ hcalm => exact hcalm

/-- The levels of a tower stand one below the other. -/
theorem lt_of_mem (h : s.Lends root is held) (hlow : height (topOf root is) < height (.debug i)) :
    ∀ j ∈ is, j < i := by
  induction is generalizing i held with
  | nil => simp
  | cons k is ih =>
    cases h with
    | debug hc hu hlow' _ _ _ hbelow =>
      simp only [topOf, height] at hlow hlow'
      have hk : k < i := by omega
      intro j hj
      obtain rfl | hj := List.mem_cons.mp hj
      · exact hk
      · exact Nat.lt_trans (ih hbelow (hu ▸ hlow') j hj) hk

/-- Another context in the place of one that is no level changes nothing. -/
theorem putContext (h : s.Lends root is held) (hi : i ∉ is) (d : DebugContext) :
    (s.putContext i d).Lends root is held := by
  induction is generalizing held with
  | nil =>
    cases h with
    | store hn hs hcovers => exact .store hn hs hcovers
  | cons k is ih =>
    cases h with
    | debug hc hu hlow hidle ht hheld hbelow hcalm =>
      have hik : i ≠ k := fun hik => hi (hik ▸ List.mem_cons_self)
      have his : i ∉ is := fun hmem => hi (List.mem_cons_of_mem k hmem)
      rw [← getElem?_putContext_ne s d hik] at hc
      refine .debug hc hu hlow hidle ht hheld (ih hbelow his) fun j hj => ?_
      obtain ⟨c, hc, hd⟩ := hcalm j hj
      have hij : i ≠ j := fun hij => his (hij ▸ hj)
      exact ⟨c, (getElem?_putContext_ne s d hij).trans hc, hd⟩

end Lends

/-- The levels `is` answer every call as towers should. Given only what they lent, they stay
calm. -/
def Serves (root : Nat) (is : List Nat) : Prop :=
  ∀ {s : Forest} {held : List Handle}, s.Lends root is held → held.length < ObjectStore.maxRefs →
    ∀ r, let p := Forest.respond (topOf root is) r s
      p.2.Lent root is held r p.1 ∧
      ((∀ h ∈ r.handles, h ≠ .null → h ∈ held) → (∀ j ∈ is, s.Calm j) → ∀ j ∈ is, p.2.Calm j)

/-- The store counts a reference for each handle that it lends. -/
theorem serves_store (root : Nat) : Serves root [] := by
  intro s held h hlen r
  cases h with
  | @store n _ hn hs hcovers =>
    have hlt := (Array.getElem?_eq_some_iff.mp hn).1
    have hput (st : ObjectStore) (held : List Handle) (hst : st.WellFormed)
        (hc : st.Covers True held) : Forest.Lends
          { s with stores := s.stores.setIfInBounds root { n with store := st } } root [] held := by
      refine .store (n := { n with store := st }) ?_ hst hc
      rw [Array.getElem?_setIfInBounds, if_pos rfl, if_pos hlt]
    refine ⟨?_, by simp⟩
    simp only [topOf, Forest.respond, hn]
    obtain ⟨hr, u, st, hres, hu, hst, hrefs⟩ | ⟨u, st, rfl, hpos, hres, hst, hrefs⟩ |
      ⟨a, hres, ha, hargs⟩ := ObjectStore.respond_refs hs r
    · rw [hres]
      exact .lent hr hu (hput st _ hst (hcovers.add hlen hrefs))
    · -- Every reference is that of a handle that was lent.
      have hobject := (ObjectStore.refs_pos_iff hs).mp hpos
      obtain ⟨o, ho⟩ := hobject
      have hu := ObjectStore.ne_null_of_object? hs ho
      have hmem : u ∈ held := by
        rw [← List.count_pos_iff, hcovers.count_eq trivial u hu]
        exact hpos
      have hperm := List.perm_cons_erase hmem
      rw [hres]
      exact .returned rfl hperm (hput st _ hst ((hcovers.perm hperm.symm).remove hrefs))
    · rw [hres]
      refine .kept ha ?_ (hput _ _ hs.counted (hcovers.refs_congr (ObjectStore.refs_counted _)))
      rintro u hmem hu rfl
      have hpos : ∀ k ∈ (Request.close u).handles, 0 < n.store.refs k := by
        simpa [Request.handles] using hcovers.refs_pos hu hmem
      exact (hargs hpos).2 u rfl

/-! ### One level more -/

/-- Context `c` at place `i` stands on calm levels, which lend what its open handles stand for. -/
private structure Level (s : Forest) (root i : Nat) (is : List Nat) (c : AttachedContext) : Prop where
  placed : s.contexts[i]? = some c
  universal : c.universal = topOf root is
  low : height c.universal < height (.debug i)
  idle : c.context.Idle
  table : c.context.table.WellFormed
  below : s.Lends root is c.context.table.wrapped
  calm : ∀ j ∈ is, s.Calm j

namespace Level

variable {c : AttachedContext}

private theorem lends (h : Level s root i is c) (hheld : held.Perm c.context.table.opened) :
    s.Lends root (i :: is) held :=
  .debug h.placed h.universal h.low h.idle h.table hheld h.below h.calm

variable {s' : Forest} {d : DebugContext} (h : Level s root i is c) (hevolves : s.Evolves s')
  (hidle : d.Idle) (ht : d.table.WellFormed) (hbelow : s'.Lends root is d.table.wrapped)
  (hcalm : ∀ j ∈ is, s'.Calm j)

include h hevolves hidle ht hbelow hcalm

/-- After a call the context is put back into what the call left of the forest. -/
private theorem put : ∃ c', Level (s'.putContext i d) root i is c' ∧ c'.context = d := by
  obtain ⟨c', hc', hu', -⟩ := hevolves.context h.placed
  have hlt := hbelow.lt_of_mem (h.universal ▸ h.low)
  have hi : i ∉ is := fun hmem => Nat.lt_irrefl i (hlt i hmem)
  have hput : (s'.putContext i d).contexts[i]? = some { c' with context := d } := by
    rw [getElem?_putContext hc', if_pos rfl]
  refine ⟨_, ⟨hput, hu'.trans h.universal, hu' ▸ h.low, hidle, ht, hbelow.putContext hi d, ?_⟩, rfl⟩
  intro j hj
  have hij : i ≠ j := fun hij => hi (hij ▸ hj)
  obtain ⟨k, hk, hd⟩ := hcalm j hj
  exact ⟨k, (getElem?_putContext_ne s' d hij).trans hk, hd⟩

/-- The level lends what it has open now, and it stays calm if the context does. -/
private theorem turn (hd : c.context.Calm → d.Calm) :
    (s'.putContext i d).Lends root (i :: is) d.table.opened ∧
      ((∀ j ∈ i :: is, s.Calm j) → ∀ j ∈ i :: is, (s'.putContext i d).Calm j) := by
  obtain ⟨c', hlevel, rfl⟩ := h.put hevolves hidle ht hbelow hcalm
  refine ⟨hlevel.lends (.refl _), fun hall j hj => ?_⟩
  obtain rfl | hj := List.mem_cons.mp hj
  · obtain ⟨k, hk, hcalm⟩ := hall j List.mem_cons_self
    cases h.placed.symm.trans hk
    exact ⟨c', hlevel.placed, hd hcalm⟩
  · exact hlevel.calm j hj

end Level

/-- The answer `a` of the levels `is` in `s`, with the forest `s'` after it, is what towers give. -/
private def Answers (s : Forest) (root : Nat) (is : List Nat) (held : List Handle) (r : Request)
    (a : Except CallError Reply) (s' : Forest) : Prop :=
  s'.Lent root is held r a ∧
    ((∀ h ∈ r.handles, h ≠ .null → h ∈ held) → (∀ j ∈ is, s.Calm j) → ∀ j ∈ is, s'.Calm j)

namespace Level

variable {c : AttachedContext} {s' : Forest} {a : Except CallError Reply} {us : List Handle}
  {u h : Handle} {table : HandleTable}

/-- A call that the level passes on: it is given lent handles or null. -/
private theorem passes {lent : List Handle} {r : Request} (hc : c.universal = topOf root is)
    (hserves : Serves root is) (hlends : s.Lends root is lent)
    (hlen : lent.length < ObjectStore.maxRefs) (hcalm : ∀ j ∈ is, s.Calm j)
    (hargs : ∀ h ∈ r.handles, h ≠ .null → h ∈ lent)
    (hU : Forest.respond c.universal r s = (a, s')) :
    s.Evolves s' ∧ s'.Lent root is lent r a ∧ ∀ j ∈ is, s'.Calm j := by
  have hevolves := respond_evolves c.universal r s
  obtain ⟨hlent, hkeep⟩ := hserves hlends hlen r
  rw [hU] at hevolves
  rw [← hc, hU] at hlent hkeep
  exact ⟨hevolves, hlent, hkeep hargs hcalm⟩

variable (hl : Level s root i is c) (hheld : held.Perm c.context.table.opened)

include hl

private theorem length_wrapped_lt : c.context.table.wrapped.length + 1 < ObjectStore.maxRefs := by
  have hlen := HandleTable.length_wrapped_lt hl.table
  have hlimit := ObjectStore.slotLimit_lt_maxRefs
  omega

/-- What resolves is null or stands for a handle that the level below lent. -/
private theorem passes_resolved (hserves : Serves root is)
    (hres : r.handles.mapM c.context.table.resolve = .ok us)
    (hU : Forest.respond c.universal (r.withHandles us) s = (a, s')) :
    s.Evolves s' ∧ s'.Lent root is c.context.table.wrapped (r.withHandles us) a ∧
      ∀ j ∈ is, s'.Calm j := by
  have hlen := hl.length_wrapped_lt
  obtain ⟨hlength, hwrapped, -⟩ := HandleTable.resolve_mapM hl.table hres
  refine passes hl.universal hserves hl.below (by omega) hl.calm ?_ hU
  rw [Request.handles_withHandles hlength]
  exact hwrapped

include hheld

/-- The refused handle is not one that the tower lent, and the level below hears nothing of it. -/
private theorem refused {e : DebugError} (hmem : h ∈ r.handles)
    (hrefused : ¬c.context.table.Accepts h) :
    Answers s root (i :: is) held r (.error (.check e)) (s.putContext i (c.context.record e)) := by
  have hnot : h ∉ held := fun hh => hrefused (.inr (hheld.mem_iff.mp hh))
  have hne : h ≠ .null := fun hh => hrefused (.inl hh)
  have htable := c.context.record_table e
  obtain ⟨c', hlevel, hc'⟩ := hl.put (.refl s) (hl.idle.record e) (htable.symm ▸ hl.table)
    (htable.symm ▸ hl.below) hl.calm
  have hheld' : held.Perm c'.context.table.opened := by rwa [hc', htable]
  refine ⟨.kept (by simp) ?_ (hlevel.lends hheld'), fun hlegit => absurd (hlegit h hmem hne) hnot⟩
  rintro u hu - rfl
  cases List.mem_singleton.mp hmem
  exact hnot hu

/-- The level closes a handle, and the level below takes back what it stood for. -/
private theorem closed (hserves : Serves root is) (hr : r = .close h) (ht : table.WellFormed)
    (hu : u ≠ .null) (hperm : c.context.table.bindings.Perm ((h, u) :: table.bindings))
    (hU : Forest.respond c.universal (.close u) s = (a, s')) :
    Answers s root (i :: is) held r a (s'.putContext i { c.context with table }) := by
  have hwrapped : c.context.table.wrapped.Perm (u :: table.wrapped) := hperm.map Prod.snd
  have hopened : c.context.table.opened.Perm (h :: table.opened) := by
    simpa [HandleTable.map_fst_bindings_eq_opened] using hperm.map Prod.fst
  have hmem : u ∈ c.context.table.wrapped := hwrapped.mem_iff.mpr List.mem_cons_self
  have hlen := hl.length_wrapped_lt
  obtain ⟨hevolves, hlent, hcalm⟩ := passes hl.universal hserves hl.below (by omega) hl.calm
    (by simp [Request.handles, hmem]) hU
  cases hlent with
  | lent hr' => exact absurd rfl (hr' u)
  | kept _ hr' => exact absurd rfl (hr' u hmem hu)
  | returned hr' hback hbelow =>
    cases hr'
    obtain ⟨hlends, hkeep⟩ := hl.turn (d := { c.context with table }) hevolves hl.idle ht
      (hbelow.perm (hwrapped.symm.trans hback).cons_inv) hcalm (·.withTable table)
    exact ⟨.returned hr (hheld.trans hopened) hlends, fun _ => hkeep⟩

/-- The level passes a call on, and hands on an answer without a handle. -/
private theorem passed (hserves : Serves root is) (hr : ∀ k, r ≠ .close k)
    (hres : r.handles.mapM c.context.table.resolve = .ok us)
    (hU : Forest.respond c.universal (r.withHandles us) s = (a, s'))
    (ha : ∀ k, k ≠ .null → a ≠ .ok (.handle k)) :
    Answers s root (i :: is) held r a (s'.putContext i c.context) := by
  obtain ⟨hevolves, hlent, hcalm⟩ := hl.passes_resolved hserves hres hU
  cases hlent with
  | lent _ hu => exact absurd rfl (ha _ hu)
  | returned hr' => exact absurd hr' (withHandles_ne_close us hr _)
  | kept ha' _ hbelow =>
    obtain ⟨hlends, hkeep⟩ := hl.turn hevolves hl.idle hl.table hbelow hcalm id
    exact ⟨.kept ha' (fun u _ _ => hr u) (hlends.perm hheld), fun _ => hkeep⟩

/-- The level passes a call on, and wraps the handle that the level below lends. -/
private theorem wrapped (hserves : Serves root is) (hr : ∀ k, r ≠ .close k)
    (hres : r.handles.mapM c.context.table.resolve = .ok us)
    (hU : Forest.respond c.universal (r.withHandles us) s = (.ok (.handle u), s'))
    (ht : table.WellFormed) (hperm : table.bindings.Perm ((h, u) :: c.context.table.bindings)) :
    Answers s root (i :: is) held r (.ok (.handle h))
      (s'.putContext i { c.context with table }) := by
  have hopened : table.opened.Perm (h :: c.context.table.opened) := by
    simpa [HandleTable.map_fst_bindings_eq_opened] using hperm.map Prod.fst
  have hne : h ≠ .null :=
    HandleTable.ne_null_of_mem_opened ht (hopened.mem_iff.mpr List.mem_cons_self)
  obtain ⟨hevolves, hlent, hcalm⟩ := hl.passes_resolved hserves hres hU
  cases hlent with
  | kept ha => exact absurd rfl (ha u)
  | lent _ _ hbelow =>
    obtain ⟨hlends, hkeep⟩ := hl.turn (d := { c.context with table }) hevolves hl.idle ht
      (hbelow.perm (hperm.map Prod.snd)) hcalm (·.withTable table)
    exact ⟨.lent hr hne (hlends.perm ((hheld.cons h).trans hopened.symm)), fun _ => hkeep⟩

/-- The level has no room for the handle that the level below lends, and gives it back at once. -/
private theorem full (hserves : Serves root is) (hr : ∀ k, r ≠ .close k)
    (hres : r.handles.mapM c.context.table.resolve = .ok us)
    (hU : Forest.respond c.universal (r.withHandles us) s = (.ok (.handle u), s')) (n : Nat) :
    Answers s root (i :: is) held r (.error (.check (.tableFull n)))
      ((Forest.respond c.universal (.close u) s').2.putContext i
        (c.context.record (.tableFull n))) := by
  have hlen := hl.length_wrapped_lt
  have htable := c.context.record_table (.tableFull n)
  obtain ⟨hevolves, hlent, hcalm⟩ := hl.passes_resolved hserves hres hU
  cases hlent with
  | kept ha => exact absurd rfl (ha u)
  | lent _ hu hbelow =>
    -- The level below has just lent the handle, so it takes it back.
    generalize hback : Forest.respond c.universal (.close u) s' = q
    obtain ⟨a, s''⟩ := q
    obtain ⟨hevolves', hlent', hcalm'⟩ := passes hl.universal hserves hbelow
      (by rw [List.length_cons]; exact hlen) hcalm (by simp [Request.handles]) hback
    cases hlent' with
    | lent hr' => exact absurd rfl (hr' u)
    | kept _ hr' => exact absurd rfl (hr' u List.mem_cons_self hu)
    | returned hr' hheld' hbelow' =>
      cases hr'
      obtain ⟨hlends, hkeep⟩ := hl.turn (d := c.context.record (.tableFull n))
        (hevolves.trans hevolves') (hl.idle.record _) (htable.symm ▸ hl.table)
        (htable.symm ▸ hbelow'.perm hheld'.cons_inv) hcalm' (·.record_full n)
      rw [htable] at hlends
      exact ⟨.kept (by simp) (fun u _ _ => hr u) (hlends.perm hheld), fun _ => hkeep⟩

end Level

/-- Debug contexts can be stacked: one level more answers as towers do. -/
theorem Serves.debug (hserves : Serves root is) : Serves root (i :: is) := by
  intro s held h _ r
  cases h with
  | @debug _ _ _ c hc hu hlow hidle ht hheld hbelow hcalm =>
    have hl : Level s root i is c := ⟨hc, hu, hlow, hidle, ht, hbelow, hcalm⟩
    rw [topOf, respond_detached hc hlow]
    have hanswered := DebugContext.respond_answered ht hidle (Forest.respond c.universal) s r
    generalize DebugContext.respond .first (Universal.beside (Forest.respond c.universal)) r
      (c.context, s) = p at hanswered
    obtain ⟨a, d, s'⟩ := p
    dsimp only at hanswered ⊢
    cases hanswered with
    | refused hargs _ hrefused _ =>
      exact hl.refused hheld (hargs ▸ List.mem_append_right _ List.mem_cons_self) hrefused
    | closedNull hr =>
      rw [putContext_self hc]
      refine ⟨.kept (by simp) ?_ (hl.lends hheld), fun _ hall => hall⟩
      rintro u - hne rfl
      cases hr
      exact hne rfl
    | closed hr ht' huh hperm hU => exact hl.closed hheld hserves hr ht' huh hperm hU
    | passed hr hres hU ha => exact hl.passed hheld hserves hr hres hU ha
    | wrapped hr hres hU _ ht' hperm => exact hl.wrapped hheld hserves hr hres hU ht' hperm
    | full hr hres hU _ _ => exact hl.full hheld hserves hr hres hU _

/-- Every tower answers every call as it should. -/
theorem serves (root : Nat) (is : List Nat) : Serves root is := by
  induction is with
  | nil => exact serves_store root
  | cons i is ih => exact ih.debug

/-! ### Runs -/

/-- The forest after calls on one of its contexts. -/
def calls (s : Forest) (ref : ContextRef) (rs : List Request) : Forest :=
  rs.foldl (fun s r => (respond ref r s).2) s

/-- A new tower lends nothing yet. -/
theorem Tower.lends (h : s.Tower root is) : s.Lends root is [] ∧ ∀ j ∈ is, s.Calm j := by
  induction h with
  | store hn hempty =>
    exact ⟨.store hn (hempty ▸ ObjectStore.empty_wellFormed) (hempty ▸ .empty), by simp⟩
  | debug hc hu hlow hfresh hbelow ih =>
    obtain ⟨hlends, hcalm⟩ := ih
    obtain ⟨tag, closedQueueMax, capacity, htable⟩ := hfresh.table
    refine ⟨.debug hc hu hlow hfresh.idle ?_ ?_ ?_ hcalm, ?_⟩
    · rw [htable]
      exact HandleTable.withCapacity_wellFormed _ _ _
    · rw [htable]
      exact .refl []
    · rw [htable]
      exact hlends
    · simp only [List.forall_mem_cons]
      exact ⟨⟨_, hc, hfresh.calm⟩, hcalm⟩

namespace Lends

theorem call (h : s.Lends root (i :: is) held) (r : Request) :
    ∃ held', (respond (.debug i) r s).2.Lends root (i :: is) held' := by
  obtain ⟨hlent, -⟩ := serves root (i :: is) h h.length_lt r
  rw [topOf] at hlent
  generalize respond (.debug i) r s = p at hlent ⊢
  obtain ⟨a, s'⟩ := p
  cases hlent with
  | lent _ _ h' => exact ⟨_, h'⟩
  | returned _ _ h' => exact ⟨_, h'⟩
  | kept _ _ h' => exact ⟨_, h'⟩

theorem calls (h : s.Lends root (i :: is) held) (rs : List Request) :
    ∃ held', (s.calls (.debug i) rs).Lends root (i :: is) held' := by
  induction rs generalizing s held with
  | nil => exact ⟨held, h⟩
  | cons r rs ih =>
    obtain ⟨held', h'⟩ := h.call r
    exact ih h'

/-- What one level wraps, the level below has open, and each handle is wrapped once. -/
theorem in_step (h : s.Lends root is held) {above below : List Nat} {j k : Nat}
    (his : is = above ++ j :: k :: below) :
    ∃ C D, s.contexts[j]? = some C ∧ s.contexts[k]? = some D ∧
      C.context.table.wrapped.Nodup ∧ C.context.table.wrapped.Perm D.context.table.opened := by
  induction above generalizing is held with
  | nil =>
    subst his
    cases h with
    | debug hc _ _ _ _ _ hbelow =>
      cases hbelow with
      | debug hc' _ _ _ ht' hheld' =>
        exact ⟨_, _, hc, hc', hheld'.nodup_iff.mpr (HandleTable.nodup_opened ht'), hheld'⟩
  | cons i above ih =>
    subst his
    cases h with
    | debug _ _ _ _ _ _ hbelow => exact ih hbelow rfl

/-- A tower that lends nothing has no handle open at any level, and no object. -/
theorem nothing_open (h : s.Lends root is []) :
    (∀ j ∈ is, ∃ C, s.contexts[j]? = some C ∧ C.context.table.opened = []) ∧
      ∃ n, s.stores[root]? = some n ∧ n.store.liveObjects = 0 := by
  induction is with
  | nil =>
    cases h with
    | store hn hs hcovers => exact ⟨by simp, _, hn, hcovers.liveObjects_eq_zero hs⟩
  | cons i is ih =>
    cases h with
    | @debug _ _ _ c hc _ _ _ _ hheld hbelow =>
      have hopened : c.context.table.opened = [] := hheld.nil_eq.symm
      have hwrapped : c.context.table.wrapped = [] := by
        rw [← HandleTable.map_fst_bindings_eq_opened, List.map_eq_nil_iff] at hopened
        rw [HandleTable.wrapped, hopened, List.map_nil]
      obtain ⟨hlower, hstore⟩ := ih (hwrapped ▸ hbelow)
      exact ⟨List.forall_mem_cons.mpr ⟨⟨c, hc, hopened⟩, hlower⟩, hstore⟩

/-- Closing the open handles one after another, in any order, gives all of them back. -/
theorem close_all (h : s.Lends root (i :: is) held) {hs : List Handle} (hperm : hs.Perm held) :
    (s.calls (.debug i) (hs.map .close)).Lends root (i :: is) [] := by
  induction hs generalizing s held with
  | nil =>
    rw [← hperm.nil_eq] at h
    exact h
  | cons k hs ih =>
    have hmem : k ∈ held := hperm.mem_iff.mp List.mem_cons_self
    have hne : k ≠ .null := by
      cases h with
      | debug _ _ _ _ ht hheld =>
        exact HandleTable.ne_null_of_mem_opened ht (hheld.mem_iff.mp hmem)
    obtain ⟨hlent, -⟩ := serves root (i :: is) h h.length_lt (.close k)
    rw [topOf] at hlent
    show ((respond (.debug i) (.close k) s).2.calls (.debug i) (hs.map .close)).Lends _ _ _
    generalize respond (.debug i) (.close k) s = p at hlent ⊢
    obtain ⟨a, s'⟩ := p
    cases hlent with
    | lent hr => exact absurd rfl (hr k)
    | kept _ hr => exact absurd rfl (hr k hmem hne)
    | returned hr hheld h' =>
      cases hr
      exact ih h' (hperm.trans hheld).cons_inv

end Lends

/-- Debug contexts stack soundly. Take a new tower of them on an empty store, and any calls on its
top, with any handles. Then the universal handles that a level wraps are distinct, and they are just
the open handles of the level below. No level below the top has recorded anything but that its table
was full. When the open handles of the top are closed, in any order, then no level has a handle open
any more, and the store has no object. -/
theorem tower_sound (htower : s.Tower root (i :: is)) (rs : List Request) :
    let s' := s.calls (.debug i) rs
    (∀ above j k below, i :: is = above ++ j :: k :: below →
      ∃ C D, s'.contexts[j]? = some C ∧ s'.contexts[k]? = some D ∧
        C.context.table.wrapped.Nodup ∧
        C.context.table.wrapped.Perm D.context.table.opened) ∧
    (∀ j ∈ is, ∃ C, s'.contexts[j]? = some C ∧ C.context.Calm) ∧
    ∃ C, s'.contexts[i]? = some C ∧ ∀ hs : List Handle, hs.Perm C.context.table.opened →
      let s'' := s'.calls (.debug i) (hs.map .close)
      (∀ j ∈ i :: is, ∃ D, s''.contexts[j]? = some D ∧ D.context.table.opened = []) ∧
      ∃ n, s''.stores[root]? = some n ∧ n.store.liveObjects = 0 := by
  intro s'
  obtain ⟨held, hlends⟩ := htower.lends.1.calls rs
  refine ⟨fun above j k below his => hlends.in_step his, hlends.calm, ?_⟩
  cases hlends with
  | debug hc hu hlow hidle ht hheld hbelow hcalm =>
    refine ⟨_, hc, fun hs hperm => ?_⟩
    have hclosed := (Lends.debug hc hu hlow hidle ht (.refl _) hbelow hcalm).close_all hperm
    exact hclosed.nothing_open

/-- Three levels, and the lowest one has room for two handles. The third integer is refused there,
which only the lowest level records. A forged handle and a handle closed twice never get below the
top. -/
theorem tower_sound_three_levels :
    let lowest := (context 0).modify (·.limitTable 1 2)
      ((empty.addStore "memory").2.addContext (.store 0) .default).2
    let s := ((lowest.addContext (.debug 0) .default).2.addContext (.debug 1) .default).2
    let s' := s.calls (.debug 2) [.fromInt 5, .fromInt 7, .fromInt 9, .asInt ⟨0xdead⟩,
      .close ⟨0x20000001⟩, .close ⟨0x20000001⟩]
    s.Tower 0 [2, 1, 0] ∧
    s'.contexts.map (fun C => (C.context.table.opened, C.context.log.snapshot.map (·.code))) =
      #[([⟨0x2⟩], [.tableFull]), ([⟨0x10000002⟩], []),
        ([⟨0x20000002⟩], [.invalidHandle, .doubleClose])] ∧
    (∃ C D, s'.contexts[1]? = some C ∧ s'.contexts[0]? = some D ∧
      C.context.table.wrapped.Nodup ∧ C.context.table.wrapped.Perm D.context.table.opened) ∧
    ∃ n, (s'.calls (.debug 2) [.close ⟨0x20000002⟩]).stores[0]? = some n ∧
      n.store.liveObjects = 0 := by
  intro lowest s s'
  have htower : s.Tower 0 [2, 1, 0] :=
    .debug rfl rfl (by decide) ⟨⟨_, _, _, rfl⟩, ⟨_, rfl⟩, rfl⟩
      (.debug rfl rfl (by decide) ⟨⟨_, _, _, rfl⟩, ⟨_, rfl⟩, rfl⟩
        (.debug rfl rfl (by decide) ⟨⟨_, _, _, rfl⟩, ⟨_, rfl⟩, rfl⟩ (.store rfl rfl)))
  have hfound : s'.contexts.map
      (fun C => (C.context.table.opened, C.context.log.snapshot.map (·.code))) =
      #[([⟨0x2⟩], [.tableFull]), ([⟨0x10000002⟩], []),
        ([⟨0x20000002⟩], [.invalidHandle, .doubleClose])] := by
    decide +kernel
  obtain ⟨hstep, -, C, hC, hclose⟩ := tower_sound htower
    [.fromInt 5, .fromInt 7, .fromInt 9, .asInt ⟨0xdead⟩, .close ⟨0x20000001⟩, .close ⟨0x20000001⟩]
  have hopened : C.context.table.opened = [⟨0x20000002⟩] := by
    have hmap := congrArg (·[2]?.map Prod.fst) hfound
    simpa [s', hC] using hmap
  obtain ⟨-, hempty⟩ := hclose [⟨0x20000002⟩] (.of_eq hopened.symm)
  exact ⟨htower, hfound, hstep [2] 1 0 [] rfl, hempty⟩

end Forest

end HandleGuard
