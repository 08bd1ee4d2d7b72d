import HandleGuard.Proofs.Context.Run
import HandleGuard.Proofs.Replay.Lifetimes
import HandleGuard.Proofs.Store.References
import HandleGuard.Proofs.Table.Short
import Mathlib.Data.List.Nodup

/-!
# What a replay session knows of its handles

A replay makes its productions on a debug context and a store, where each has a debug handle and a
universal handle. `Issue` holds the three together, and `Lives` says how the session must look when
the issues `js` were made and the issues `ks` of them are closed: the table has this history, an open
issue has its value in the store, and two open issues share a universal handle iff they share an
object. The rest of the module says what the session answers then.

* `Lives.mapM_resolve`         handles resolve up to the first one that is closed
* `Lives.wrap`, `Lives.close`  how `js` and `ks` grow
* `Lives.dup`, `Lives.create`  what the store does for calls that make a handle
-/

namespace HandleGuard

open DebugContext

/-- A production with its handles. -/
structure Issue where
  production : Production
  debug : Handle
  universal : Handle
deriving DecidableEq

/-- The issues `js` were made in a session with the settings `config`, and those of `ks` are closed,
latest first. -/
structure Lives (config : Config) (js ks : List Issue) (c : Session) : Prop where
  table : c.1.table.ShortHistory (js.map fun j => (j.debug, j.universal)) (ks.map Issue.debug)
  capacity : c.1.table.capacity = Handle.maxSlots
  closedQueueMax : c.1.table.closedQueueMax = config.closedQueueMax
  hook : c.1.hook = none
  store : c.2.WellFormed
  size_le : c.2.objects.size ≤ js.length
  covers : c.2.Covers False c.1.table.wrapped
  closed_made : ∀ k ∈ ks, k ∈ js
  value : ∀ j ∈ js, j ∉ ks → c.2.value? j.universal = some j.production.value
  object : ∀ i ∈ js, i ∉ ks → ∀ j ∈ js, j ∉ ks →
    (i.universal = j.universal ↔ i.production.object = j.production.object)

namespace Lives

variable {config : Config} {js ks is : List Issue} {c : Session} {d : DebugContext}
  {st st' : ObjectStore} {j k : Issue} {u : Handle}

/-- Only the table, the hook and the objects matter. -/
theorem congr (hl : Lives config js ks (d, st)) {d' : DebugContext} (htable : d'.table = d.table)
    (hhook : d'.hook = d.hook) (hobjects : st'.objects = st.objects) :
    Lives config js ks (d', st') := by
  refine ⟨?_, ?_, ?_, hhook.trans hl.hook, ObjectStore.wellFormed_congr hobjects hl.store, ?_,
    ?_, hl.closed_made, ?_, hl.object⟩
  · rw [htable]
    exact hl.table
  · rw [htable]
    exact hl.capacity
  · rw [htable]
    exact hl.closedQueueMax
  · rw [hobjects]
    exact hl.size_le
  · rw [htable]
    exact hl.covers.refs_congr (ObjectStore.refs_congr hobjects)
  · rw [ObjectStore.value?_congr hobjects]
    exact hl.value

theorem report (hl : Lives config js ks (d, st)) (e : DebugError) :
    DebugContext.report .first Session.universal e (d, st) = (d.record e, st) :=
  report_of_hook_none Session.universal e hl.hook st

theorem record (hl : Lives config js ks (d, st)) (e : DebugError) :
    Lives config js ks (d.record e, st) :=
  hl.congr (record_table d e) (record_hook d e) rfl

theorem counted (hl : Lives config js ks (d, st)) : Lives config js ks (d, st.counted) :=
  hl.congr rfl rfl rfl

/-! ### Telling issues apart -/

theorem mem_pairs (hj : j ∈ js) :
    (j.debug, j.universal) ∈ js.map fun j => (j.debug, j.universal) :=
  List.mem_map_of_mem hj

/-- No two issues have the same debug handle. -/
theorem eq_of_debug (hl : Lives config js ks c) (hj : j ∈ js) (hk : k ∈ js)
    (h : j.debug = k.debug) : j = k := by
  have hnodup := hl.table.nodup
  rw [List.map_map] at hnodup
  exact List.inj_on_of_nodup_map hnodup hj hk h

theorem mem_closedHandles_iff (hl : Lives config js ks c) (hj : j ∈ js) {ls : List Issue}
    (hls : ∀ l ∈ ls, l ∈ ks) : j.debug ∈ ls.map Issue.debug ↔ j ∈ ls := by
  rw [List.mem_map]
  constructor
  · rintro ⟨l, hl', heq⟩
    exact hl.eq_of_debug (hl.closed_made l (hls l hl')) hj heq ▸ hl'
  · exact fun hj' => ⟨j, hj', rfl⟩

theorem debug_mem_iff (hl : Lives config js ks c) (hj : j ∈ js) :
    j.debug ∈ ks.map Issue.debug ↔ j ∈ ks :=
  hl.mem_closedHandles_iff hj fun _ => id

/-- Open issues are bound in the table. -/
theorem mem_wrapped_iff (hl : Lives config js ks c) :
    u ∈ c.1.table.wrapped ↔ ∃ j ∈ js, j ∉ ks ∧ j.universal = u := by
  rw [HandleTable.wrapped, (hl.table.bindings.map Prod.snd).mem_iff]
  simp only [List.mem_map, List.mem_filter, decide_eq_true_eq, Prod.exists]
  constructor
  · rintro ⟨h, _, ⟨⟨j, hj, heq⟩, hopen⟩, rfl⟩
    cases heq
    exact ⟨j, hj, fun hk => hopen ⟨j, hk, rfl⟩, rfl⟩
  · rintro ⟨j, hj, hk, rfl⟩
    refine ⟨j.debug, j.universal, ⟨⟨j, hj, rfl⟩, ?_⟩, rfl⟩
    rintro ⟨k, hk', heq⟩
    exact hk (hl.eq_of_debug (hl.closed_made k hk') hj heq ▸ hk')

theorem mem_wrapped (hl : Lives config js ks c) (hj : j ∈ js) (hopen : j ∉ ks) :
    j.universal ∈ c.1.table.wrapped :=
  hl.mem_wrapped_iff.mpr ⟨j, hj, hopen, rfl⟩

theorem refs_pos (hl : Lives config js ks c) (hj : j ∈ js) (hopen : j ∉ ks) :
    0 < c.2.refs j.universal :=
  hl.covers.refs_pos (HandleTable.wrapped_ne_null hl.table.wellFormed (hl.mem_wrapped hj hopen))
    (hl.mem_wrapped hj hopen)

/-! ### Answers -/

/-- The handles of issues resolve up to the first one that is closed. -/
theorem mapM_resolve (hl : Lives config js ks c) (his : ∀ i ∈ is, i ∈ js) :
    (is.find? (· ∈ ks) = none ∧
      (is.map Issue.debug).mapM c.1.table.resolve = .ok (is.map Issue.universal)) ∨
    ∃ k e, is.find? (· ∈ ks) = some k ∧
      (is.map Issue.debug).mapM c.1.table.resolve = .error e ∧
      e.code = HandleTable.refusal config.closedQueueMax (ks.map Issue.debug) .useAfterClose
        k.debug := by
  induction is with
  | nil => exact .inl ⟨rfl, rfl⟩
  | cons i is ih =>
    have hi := his i List.mem_cons_self
    by_cases hk : i ∈ ks
    · obtain ⟨e, hres, hcode⟩ :=
        hl.table.resolve_closed (mem_pairs hi) ((hl.debug_mem_iff hi).mpr hk)
      rw [hl.closedQueueMax] at hcode
      refine .inr ⟨i, e, List.find?_cons_of_pos (decide_eq_true hk), ?_, hcode⟩
      rw [List.map_cons, List.mapM_cons, hres]
      rfl
    · have hres := hl.table.resolve_open (mem_pairs hi) (mt (hl.debug_mem_iff hi).mp hk)
      rw [List.find?_cons_of_neg (by simpa using hk), List.map_cons, List.mapM_cons, hres]
      obtain ⟨hfind, hrest⟩ | ⟨k, e, hfind, hrest, hcode⟩ :=
        ih fun j hj => his j (List.mem_cons_of_mem i hj)
      · rw [hrest]
        exact .inl ⟨hfind, rfl⟩
      · rw [hrest]
        exact .inr ⟨k, e, hfind, rfl, hcode⟩

/-- A call on open issues is passed on. -/
theorem respond_open (hl : Lives config js ks (d, st)) (his : ∀ i ∈ is, i ∈ js)
    (hopen : is.find? (· ∈ ks) = none) {r : Request} (hr : r.handles = is.map Issue.debug)
    (hclose : ∀ h, r ≠ .close h) :
    Session.respond r (d, st) =
      forward .first Session.universal (r.withHandles (is.map Issue.universal)) (d, st) := by
  rw [Session.respond, respond_first _ hclose, hr]
  obtain ⟨-, hres⟩ | ⟨k, e, hfind, -⟩ := hl.mapM_resolve his
  · rw [hres]
  · rw [hopen] at hfind
    exact nomatch hfind

/-- A call on issues of which one is closed fails. -/
theorem respond_closed (hl : Lives config js ks (d, st)) (his : ∀ i ∈ is, i ∈ js)
    (hclosed : is.find? (· ∈ ks) = some k) {r : Request} (hr : r.handles = is.map Issue.debug)
    (hclose : ∀ h, r ≠ .close h) :
    ∃ e, Session.respond r (d, st) = (.error (.check e), (d.record e, st)) ∧
      e.code = HandleTable.refusal config.closedQueueMax (ks.map Issue.debug) .useAfterClose
        k.debug := by
  rw [Session.respond, respond_first _ hclose, hr]
  obtain ⟨hfind, -⟩ | ⟨k', e, hfind, hres, hcode⟩ := hl.mapM_resolve his
  · rw [hclosed] at hfind
    exact nomatch hfind
  · rw [hclosed] at hfind
    cases hfind
    refine ⟨e, ?_, hcode⟩
    rw [hres]
    exact congrArg (Prod.mk _) (hl.report e)

/-- A call that is passed on and makes no handle answers what the store answers. -/
theorem respond_read (hl : Lives config js ks (d, st)) (his : ∀ i ∈ is, i ∈ js)
    (hopen : is.find? (· ∈ ks) = none) {r : Request} (hr : r.handles = is.map Issue.debug)
    (hclose : ∀ h, r ≠ .close h) {a : Except CallError Reply}
    (hres : ObjectStore.respond (r.withHandles (is.map Issue.universal)) st = (a, st.counted))
    (ha : ∀ h, a ≠ .ok (.handle h)) :
    Session.respond r (d, st) = (a, (d, st.counted)) := by
  rw [hl.respond_open his hopen hr hclose, forward]
  simp only [Session.universal, Universal.beside, hres]

/-- What `resolve` says of an open issue. -/
theorem resolve_open (hl : Lives config js ks (d, st)) (hj : j ∈ js) (hopen : j ∉ ks) :
    Session.resolve j.debug (d, st) = (.ok j.universal, (d, st)) := by
  rw [Session.resolve, resolve, checkResolve, check_first,
    hl.table.resolve_open (mem_pairs hj) (mt (hl.debug_mem_iff hj).mp hopen)]

/-- What `resolve` says of a closed issue. -/
theorem resolve_closed (hl : Lives config js ks (d, st)) (hk : k ∈ ks) :
    ∃ e, Session.resolve k.debug (d, st) = (.error e, (d.record e, st)) ∧
      e.code = HandleTable.refusal config.closedQueueMax (ks.map Issue.debug) .useAfterClose
        k.debug := by
  have hmade := hl.closed_made k hk
  obtain ⟨e, hres, hcode⟩ :=
    hl.table.resolve_closed (mem_pairs hmade) ((hl.debug_mem_iff hmade).mpr hk)
  rw [hl.closedQueueMax] at hcode
  refine ⟨e, ?_, hcode⟩
  rw [Session.resolve, resolve, checkResolve, check_first, hres, ← hl.report e]

/-- The store computes from open issues what their values give. -/
theorem compute (hl : Lives config js ks (d, st)) (his : ∀ i ∈ is, i ∈ js)
    (hopen : ∀ i ∈ is, i ∉ ks) (op : OpId) :
    match Lifetimes.compute op ((is.map Issue.production).map Production.value) with
    | some v => st.compute op (is.map Issue.universal) = .ok v
    | none => ∃ e, st.compute op (is.map Issue.universal) = .error e := by
  have hvalue : ∀ i ∈ is, st.value i.universal = .ok i.production.value := by
    intro i hi
    have hsome : st.value? i.universal = some i.production.value := hl.value i (his i hi) (hopen i hi)
    rw [ObjectStore.value_eq_value?, hsome]
  unfold Lifetimes.compute ObjectStore.compute
  by_cases hadd : op = ObjectStore.addOp
  · rw [if_pos hadd, if_pos hadd]
    match is, hvalue with
    | [i, j], hvalue =>
      have hi := hvalue i (by simp)
      have hj := hvalue j (by simp)
      simp only [List.map_cons, List.map_nil, hi, hj]
      rfl
    | [], _ | [_], _ | _ :: _ :: _ :: _, _ => exact ⟨_, rfl⟩
  · rw [if_neg hadd, if_neg hadd]
    by_cases hneg : op = ObjectStore.negOp
    · rw [if_pos hneg, if_pos hneg]
      match is, hvalue with
      | [i], hvalue =>
        simp only [List.map_cons, List.map_nil, hvalue i (by simp)]
        rfl
      | [], _ | _ :: _ :: _, _ => exact ⟨_, rfl⟩
    · rw [if_neg hneg, if_neg hneg]
      exact ⟨_, rfl⟩

/-! ### Calls that make a handle -/

/-- The store has become `st'` and holds one more reference to the object `u`, which is known as
`object` and has this value. -/
structure Brings (js ks : List Issue) (st st' : ObjectStore) (u : Handle) (object : Nat)
    (value : Int64) : Prop where
  ne_null : u ≠ .null
  store : st'.WellFormed
  size_le : st'.objects.size ≤ st.objects.size + 1
  refs : ∀ k, st'.refs k = if k = u then min (st.refs u + 1) ObjectStore.maxRefs else st.refs k
  same : ∀ k, 0 < st.refs k → st'.value? k = st.value? k
  value : st'.value? u = some value
  object : ∀ j ∈ js, j ∉ ks → (j.universal = u ↔ j.production.object = object)

variable {object : Nat} {value : Int64}

/-- A duplicate is of the object it was made of. -/
theorem dup (hl : Lives config js ks (d, st)) (hj : j ∈ js) (hopen : j ∉ ks) :
    ∃ st', ObjectStore.respond (.dup j.universal) st = (.ok (.handle j.universal), st') ∧
      Brings js ks st st' j.universal j.production.object j.production.value := by
  obtain ⟨o, ho⟩ := (ObjectStore.refs_pos_iff hl.store).mp (hl.refs_pos hj hopen)
  obtain ⟨st', hres, hupdate⟩ := ObjectStore.respond_dup hl.store ho
  have hsame : ∀ k, st'.value? k = st.value? k := by
    intro k
    rw [hupdate.value?]
    split
    · rename_i hk
      rw [hk, ObjectStore.value?, ho]
      rfl
    · rfl
  have hsize := ObjectStore.size_respond_le (.dup j.universal) st
  rw [hres] at hsize
  exact ⟨st', hres, ObjectStore.ne_null_of_object? hl.store ho, hupdate.wellFormed, hsize,
    hupdate.refs_dup ho, fun k _ => hsame k, (hsame _).trans (hl.value j hj hopen),
    fun i hi hi' => hl.object i hi hi' j hj hopen⟩

/-- A new object is none of those that open issues are of. -/
theorem create (hl : Lives config js ks (d, st)) (hroom : js.length < Handle.maxSlots)
    (value : Int64) (hnew : ∀ j ∈ js, j.production.object ≠ object) :
    ∃ u st', ObjectStore.respond (.fromInt value) st = (.ok (.handle u), st') ∧
      Brings js ks st st' u object value := by
  have hsize := ObjectStore.size_respond_le (.fromInt value) st
  obtain ⟨u, st', hres, hu, hnone, hupdate⟩ | ⟨-, hfull⟩ :=
    ObjectStore.respond_fromInt hl.store value
  · have hzero : st.refs u = 0 := ObjectStore.refs_eq_zero_of_none hnone
    rw [hres] at hsize
    refine ⟨u, st', hres, hu, hupdate.wellFormed, hsize, hupdate.refs_new hnone, fun k hk => ?_,
      ?_, fun j hj hopen => iff_of_false ?_ (hnew j hj)⟩
    · have hne : k ≠ u := by
        rintro rfl
        omega
      rw [hupdate.value?, if_neg hne]
    · rw [hupdate.value?, if_pos rfl]
      rfl
    · -- The address is free, but those of open issues are taken.
      rintro rfl
      have hpos : 0 < st.refs j.universal := hl.refs_pos hj hopen
      omega
  · have hfull : st.liveObjects + 1 = Numeral.wordLimit := hfull
    have hlive := st.liveObjects_le_size
    have hmade : st.objects.size ≤ js.length := hl.size_le
    simp only [Handle.maxSlots, Handle.slotLimit, Numeral.wordLimit] at *
    omega

/-- A handle that comes back is wrapped, and the table goes on as before. -/
theorem wrap (hl : Lives config js ks (d, st)) (hb : Brings js ks st st' u object value)
    (hroom : js.length < Handle.maxSlots) (origin : Nat) :
    ∃ h d', DebugContext.wrap .first Session.universal u (d, st') = (.ok (.handle h), (d', st')) ∧
      Lives config (js ++ [⟨⟨origin, object, value⟩, h, u⟩]) ks (d', st') ∧
      d'.log = d.log ∧ d'.table.leakGeneration = d.table.leakGeneration := by
  have hlen : (js.map fun j => (j.debug, j.universal)).length < d.table.capacity := by
    rw [List.length_map, hl.capacity]
    exact hroom
  obtain ⟨h, t, hopen, hfresh, ht, hperm, hcapacity, hmax, hgeneration⟩ :=
    hl.table.openHandle hb.ne_null hlen
  have hcovers := hl.covers.add (Nat.lt_trans (HandleTable.length_wrapped_lt hl.table.wellFormed)
    ObjectStore.slotLimit_lt_maxRefs) hb.refs
  refine ⟨h, { d with table := t }, ?_, ?_, rfl, hgeneration⟩
  · rw [DebugContext.wrap, openHandle, checkOpen, check_first, hopen]
  · refine ⟨?_, hcapacity.trans hl.capacity, hmax.trans hl.closedQueueMax, hl.hook, hb.store,
      ?_, hcovers.perm (hperm.map Prod.snd),
      fun k hk => List.mem_append_left _ (hl.closed_made k hk), ?_, ?_⟩
    · rw [List.map_append]
      exact ht
    · rw [List.length_append]
      exact Nat.le_trans hb.size_le (Nat.succ_le_succ hl.size_le)
    · intro j hj hk
      rcases List.mem_append.mp hj with hj | hj
      · show st'.value? j.universal = _
        rw [hb.same _ (hl.refs_pos hj hk)]
        exact hl.value j hj hk
      · rw [List.mem_singleton.mp hj]
        exact hb.value
    · intro i hi hik j hj hjk
      rcases List.mem_append.mp hi with hi | hi
      · rcases List.mem_append.mp hj with hj | hj
        · exact hl.object i hi hik j hj hjk
        · rw [List.mem_singleton.mp hj]
          exact hb.object i hi hik
      · rw [List.mem_singleton.mp hi]
        rcases List.mem_append.mp hj with hj | hj
        · have hiff := hb.object j hj hjk
          exact ⟨fun h => (hiff.mp h.symm).symm, fun h => (hiff.mpr h.symm).symm⟩
        · rw [List.mem_singleton.mp hj]
          exact ⟨fun _ => rfl, fun _ => rfl⟩

/-- A call that makes a handle, and goes well in the store, goes well. -/
theorem respond_brings (hl : Lives config js ks (d, st)) (his : ∀ i ∈ is, i ∈ js)
    (hopen : is.find? (· ∈ ks) = none) {r : Request} (hr : r.handles = is.map Issue.debug)
    (hclose : ∀ h, r ≠ .close h)
    (hres : ObjectStore.respond (r.withHandles (is.map Issue.universal)) st = (.ok (.handle u), st'))
    (hb : Brings js ks st st' u object value) (hroom : js.length < Handle.maxSlots) (origin : Nat) :
    ∃ h d', Session.respond r (d, st) = (.ok (.handle h), (d', st')) ∧
      Lives config (js ++ [⟨⟨origin, object, value⟩, h, u⟩]) ks (d', st') ∧
      d'.log = d.log ∧ d'.table.leakGeneration = d.table.leakGeneration := by
  obtain ⟨h, d', hwrap, hrest⟩ := hl.wrap hb hroom origin
  refine ⟨h, d', ?_, hrest⟩
  rw [hl.respond_open his hopen hr hclose, forward]
  simp only [Session.universal, Universal.beside, hres]
  exact hwrap

/-! ### Closing -/

/-- An open issue can be closed in the table. It is closed for the session, whether or not its
reference is given back, as long as the other references stay. -/
theorem closeTable (hl : Lives config js ks (d, st)) (hj : j ∈ js) (hopen : j ∉ ks) :
    ∃ t, d.table.close j.debug = (.ok j.universal, t) ∧
      t.leakGeneration = d.table.leakGeneration ∧
      d.table.wrapped.Perm (j.universal :: t.wrapped) ∧
      ∀ {st' : ObjectStore}, st'.WellFormed → st'.objects.size = st.objects.size →
        st'.Covers False t.wrapped →
        (∀ v ∈ t.wrapped, v ≠ .null → st'.value? v = st.value? v) →
        Lives config js (j :: ks) ({ d with table := t }, st') := by
  obtain ⟨t, hclose, ht, hperm, hcapacity, hmax, hgeneration⟩ :=
    hl.table.close (mem_pairs hj) (mt (hl.debug_mem_iff hj).mp hopen)
  refine ⟨t, hclose, hgeneration, hperm.map Prod.snd, fun {st'} hst' hsize hcovers hsame => ?_⟩
  have hclosed : ∀ k ∈ j :: ks, k ∈ js := by
    intro k hk
    rcases List.mem_cons.mp hk with rfl | hk
    · exact hj
    · exact hl.closed_made k hk
  have hstill : ∀ {i : Issue}, i ∉ j :: ks → i ∉ ks := fun hi hk => hi (List.mem_cons_of_mem j hk)
  refine ⟨ht, hcapacity.trans hl.capacity, hmax.trans hl.closedQueueMax, hl.hook, hst',
    Nat.le_trans (Nat.le_of_eq hsize) hl.size_le, hcovers, hclosed, fun i hi hik => ?_, fun i hi hik i' hi' hik' =>
      hl.object i hi (hstill hik) i' hi' (hstill hik')⟩
  -- The other open issues are still wrapped.
  have hwrapped : i.universal ∈ t.wrapped := by
    have hmem : (i.debug, i.universal) ∈ t.bindings := by
      rw [ht.bindings.mem_iff, List.mem_filter]
      refine ⟨mem_pairs hi, decide_eq_true fun hmem => hik ?_⟩
      obtain ⟨k, hk, heq⟩ := List.mem_map.mp (show i.debug ∈ (j :: ks).map Issue.debug from hmem)
      exact hl.eq_of_debug (hclosed k hk) hi heq ▸ hk
    exact List.mem_map_of_mem hmem
  show st'.value? i.universal = _
  rw [hsame _ hwrapped (HandleTable.wrapped_ne_null ht.wellFormed hwrapped)]
  exact hl.value i hi (hstill hik)

/-- Closing an issue gives its reference back. -/
theorem close (hl : Lives config js ks (d, st)) (hj : j ∈ js) (hopen : j ∉ ks) :
    ∃ d' st', Session.respond (.close j.debug) (d, st) = (.ok .closed, (d', st')) ∧
      Lives config js (j :: ks) (d', st') ∧ d'.log = d.log ∧
      d'.table.leakGeneration = d.table.leakGeneration := by
  obtain ⟨t, hclose, hgeneration, hperm, hlives⟩ := hl.closeTable hj hopen
  have hu := HandleTable.wrapped_ne_null hl.table.wellFormed (hl.mem_wrapped hj hopen)
  obtain ⟨st', hres, hst', hcovers, hsame⟩ :=
    (hl.covers.perm hperm.symm).close hl.store hu
  have hsize := ObjectStore.size_respond_close j.universal st
  rw [hres] at hsize
  refine ⟨{ d with table := t }, st', ?_, hlives hst' hsize hcovers hsame, rfl, hgeneration⟩
  simp only [Session.respond, respond, closeThrough, checkClose, check_first, hclose,
    Handle.isNull_eq_false_iff.mpr hu, Session.universal, Universal.beside, hres]
  rfl

/-- Closing an issue by hand leaves its reference in the store. -/
theorem closeHandle (hl : Lives config js ks (d, st)) (hj : j ∈ js) (hopen : j ∉ ks) :
    ∃ d', Session.closeHandle j.debug (d, st) = (.ok j.universal, (d', st)) ∧
      Lives config js (j :: ks) (d', st) ∧ d'.log = d.log ∧
      d'.table.leakGeneration = d.table.leakGeneration := by
  obtain ⟨t, hclose, hgeneration, hperm, hlives⟩ := hl.closeTable hj hopen
  refine ⟨{ d with table := t }, ?_, hlives hl.store rfl (hl.covers.perm hperm.symm).drop
    (fun _ _ _ => rfl), rfl, hgeneration⟩
  rw [Session.closeHandle, DebugContext.closeHandle, checkClose, check_first, hclose]

/-- A closed issue cannot be closed again, in either way. -/
theorem close_closed (hl : Lives config js ks (d, st)) (hk : k ∈ ks) :
    ∃ e, Session.respond (.close k.debug) (d, st) = (.error (.check e), (d.record e, st)) ∧
      Session.closeHandle k.debug (d, st) = (.error e, (d.record e, st)) ∧
      e.code = HandleTable.refusal config.closedQueueMax (ks.map Issue.debug) .doubleClose
        k.debug := by
  obtain ⟨e, hclose, hcode⟩ := hl.table.close_closed (mem_pairs (hl.closed_made k hk))
    ((hl.debug_mem_iff (hl.closed_made k hk)).mpr hk)
  rw [hl.closedQueueMax] at hcode
  have hcheck : checkClose .first (DebugContext.report .first Session.universal) k.debug (d, st) =
      (.error e, (d.record e, st)) := by
    rw [checkClose, check_first, hclose, ← hl.report e]
  refine ⟨e, ?_, hcheck, hcode⟩
  rw [Session.respond, respond, closeThrough, hcheck]

theorem newGeneration (hl : Lives config js ks (d, st)) :
    Lives config js ks (d.newGeneration.2, st) :=
  { hl with table := hl.table.newGeneration }

end Lives

end HandleGuard
