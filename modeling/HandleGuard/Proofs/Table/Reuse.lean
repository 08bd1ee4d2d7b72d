import HandleGuard.Proofs.Table.History
import Mathlib.Algebra.Group.Nat.Defs
import Mathlib.Data.List.Permutation

/-!
# Handles are not used again

A table gives a handle out a second time only after the generation of its slot went all the way
round. So in a run that issues no more handles than there are generations, no handle is issued
twice, and a handle that was closed is never open again (`handles_not_reused`).

* `lookup_issued_ne_ok`   a handle that is issued meant nothing to the table before
* `issued_again`          a handle issued twice: its slot was retired a full cycle of times between
* `Recounts.nodup_issued`, `Recounts.not_open_of_closed`   what a short history rules out
-/

namespace HandleGuard.HandleTable

variable {t t₁ t₂ t' : HandleTable} {I : List (Handle × Handle)} {C : List Handle} {R : List Nat}

/-! ### The moment of issue -/

/-- A slot that is free, or not there yet, gives no meaning to its handles. -/
theorem Step.lookup_ne_ok (ht : t.WellFormed) {i : Nat} {h u : Handle}
    (hs : Step t (.issued i h u) t') {j : Nat} {e : HandleEntry} : t.lookup h ≠ .ok (j, e) := by
  intro hl
  have hslot := hs.issued_slot? ht
  obtain ⟨hj, rfl⟩ := (lookup_eq_ok_iff ht).mp hl
  rw [slot?_handleAt ht (ht.slot_lt hj)] at hslot
  cases hslot
  obtain ⟨-, g, -, hfree | ⟨hnone, -⟩, -⟩ := hs.issued_slots
  · rw [hj] at hfree
    exact nomatch hfree
  · rw [hj] at hnone
    exact nomatch hnone

/-- The next generation is another one. -/
theorem nextGeneration_mod_ne (g : Nat) :
    Handle.nextGeneration g % Handle.generationLimit ≠ g % Handle.generationLimit := by
  simp only [Handle.nextGeneration, Handle.generationLimit] at *
  omega

/-- A handle that is issued meant nothing to the table before. -/
theorem lookup_issued_ne_ok (ht : t.WellFormed) {u h : Handle} (hu : u ≠ .null)
    (hok : (t.openHandle u).1 = .ok h) {j : Nat} {e : HandleEntry} : t.lookup h ≠ .ok (j, e) := by
  obtain ⟨i, h', t', hopen, hs⟩ | ⟨i, h', t₁, t', hopen, hret, hs, -⟩ | ⟨hfull, -⟩ :=
    openHandle_cases ht hu
  · rw [hopen] at hok
    cases hok
    exact hs.lookup_ne_ok ht
  · rw [hopen] at hok
    cases hok
    intro hl
    obtain ⟨hj, rfl⟩ := (lookup_eq_ok_iff ht).mp hl
    have ht₁ := hret.wellFormed ht
    obtain ⟨e', hi, -, hslots⟩ := hret.retired_slots
    by_cases hji : j = i
    · -- The entry is the one that was retired, so its slot is a generation further.
      subst hji
      rw [hj] at hi
      cases hi
      obtain ⟨-, g, hg, hfree | ⟨hnone, -⟩, -⟩ := hs.issued_slots
      · rw [hslots, if_pos rfl] at hfree
        cases hfree
        rw [hret.handleAt] at hg
        have hgen := (handleAt_inj (ht.slot_lt hj) (ht.slot_lt hj) hg).2
        exact nextGeneration_mod_ne _ hgen.symm
      · rw [hslots, if_pos rfl] at hnone
        exact nomatch hnone
    · -- The entry is still there after the retirement.
      have hj₁ : t₁.slots[j]? = some (.occupied e) := by rw [hslots, if_neg hji, hj]
      have hl₁ := lookup_handleAt ht₁ hj₁
      rw [hret.handleAt] at hl₁
      exact hs.lookup_ne_ok ht₁ hl₁
  · rw [hfull] at hok
    exact nomatch hok

/-- A handle that is issued for a handle that is not null is not null. -/
theorem issued_ne_null (ht : t.WellFormed) {u h : Handle} (hu : u ≠ .null)
    (hok : (t.openHandle u).1 = .ok h) : h ≠ .null :=
  (openHandle_performedBy ht hu hok).1

/-- A handle that is issued is neither open nor remembered as closed. -/
theorem issued_fresh (ht : t.WellFormed) {u h : Handle} (hu : u ≠ .null)
    (hok : (t.openHandle u).1 = .ok h) :
    h ∉ (t.openHandles 0).map OpenHandle.handle ∧ h ∉ t.closedHandles := by
  constructor
  · intro hopen
    obtain ⟨o, ho, rfl⟩ := List.mem_map.mp hopen
    obtain ⟨i, e, hi, -, rfl⟩ := mem_openHandles_iff.mp ho
    exact lookup_issued_ne_ok ht hu hok (lookup_handleAt ht hi)
  · intro hclosed
    obtain ⟨i, e, hi, -, rfl⟩ := (mem_closedHandles_iff ht).mp hclosed
    exact lookup_issued_ne_ok ht hu hok (lookup_handleAt ht hi)

/-! ### A handle that is issued twice -/

/-- The generation of a handle that is issued counts the retirements of its slot, that of the
operation itself included. All earlier generations of the slot were issued before. -/
theorem Recounts.openHandle (ht : t.WellFormed) (hr : t.Recounts I C R) {u h : Handle}
    (hh : h ≠ .null) (hok : (t.openHandle u).1 = .ok h) :
    ∃ i, i < Handle.maxSlots ∧ h.slot? = some i ∧
      h = t.handleAt i ((R ++ t.retiredBy (.openHandle u)).count i) ∧
      (I.filter fun p => ofSlot i p.1).length = (R ++ t.retiredBy (.openHandle u)).count i := by
  obtain ⟨-, i, rs, t₁, htrace, hstep, hby⟩ :=
    openHandle_performedBy ht (ne_null_of_openHandle hh hok) hok
  have hretired : t.retiredBy (.openHandle u) = rs := by
    rw [hby.retired]
    simp [List.filterMap_cons, TableEvent.retired?]
  have hr₁ : t₁.Recounts I C (R ++ rs) := by
    have htraced := hr.trace ht htrace
    simp only [List.filterMap_map, TableEvent.filterMap_issued?_retired,
      TableEvent.filterMap_closed?_retired, TableEvent.filterMap_retired?_retired,
      List.append_nil] at htraced
    exact htraced
  have ht₁ : t₁.WellFormed := htrace.wellFormed ht
  have hslot : h.slot? = some i := hstep.issued_slot? ht₁
  obtain ⟨hnext, hbefore, -⟩ := hr₁.next hstep
  have hat : t₁.handleAt i = t.handleAt i := by
    funext g
    rw [handleAt, handleAt, htrace.frame.1]
  refine ⟨i, Handle.lt_of_slot? hslot, hslot, ?_, ?_⟩
  · rw [hretired, hnext, hat]
  · rw [hretired, ← List.length_map Prod.fst, hbefore, length_lives]

/-- Between two issues of one handle its slot is retired a full cycle of generations, or more. -/
theorem issued_again (ht : t.WellFormed) (hr : t.Recounts I C R) {u u' h : Handle}
    {mid : List TableOp} (hh : h ≠ .null) (hok : (t.openHandle u).1 = .ok h)
    (hok' : (((t.perform (.openHandle u)).run mid).openHandle u').1 = .ok h) :
    ∃ i, h.slot? = some i ∧ Handle.generationLimit ≤
      ((t.perform (.openHandle u)).retired (mid ++ [.openHandle u'])).count i := by
  have hrun := hr.run ht (.openHandle u :: mid)
  have ht' := run_wellFormed ht (.openHandle u :: mid)
  obtain ⟨i, hi, hslot, hfirst, hcount⟩ := hr.openHandle ht hh hok
  obtain ⟨j, -, hslot', hagain, hcount'⟩ := hrun.openHandle ht' hh hok'
  obtain rfl : i = j := Option.some.inj (hslot.symm.trans hslot')
  refine ⟨i, hslot, ?_⟩
  rw [run_handleAt ht, hfirst] at hagain
  have hmod := (handleAt_inj hi hi hagain).2
  -- Both counts run from the start. The second one has the retirements between the two issues on
  -- top, and it is larger, because the handle of the first issue is counted then.
  have hsplit : ((t.perform (.openHandle u)).retired (mid ++ [.openHandle u'])).count i =
      ((t.perform (.openHandle u)).retired mid).count i +
        (((t.perform (.openHandle u)).run mid).retiredBy (.openHandle u')).count i := by
    rw [retired, collect_append, List.count_append]
    simp only [collect, List.append_nil]
    rfl
  have hissued : t.issued (.openHandle u :: mid) =
      (h, u) :: (t.perform (.openHandle u)).issued mid := by
    have hnull : ¬h.isNull = true := Handle.not_isNull hh
    simp only [issued, collect, issuedBy, hok, hnull, Bool.false_eq_true, ↓reduceIte]
    rfl
  have hretired : t.retired (.openHandle u :: mid) =
      t.retiredBy (.openHandle u) ++ (t.perform (.openHandle u)).retired mid := rfl
  have hof : ofSlot i h = true := ofSlot_iff.mpr hslot
  rw [hissued, List.filter_append, List.filter_cons, if_pos hof, List.length_append,
    List.length_cons, hcount] at hcount'
  simp only [hretired, List.count_append, run_cons] at hmod hcount'
  rw [hsplit]
  simp only [Handle.generationLimit] at *
  omega

/-! ### Short histories -/

theorem nodup_lives (t : HandleTable) {i n : Nat} (hi : i < Handle.maxSlots)
    (hn : n ≤ Handle.generationLimit) : (t.lives i n).Nodup := by
  rw [lives, List.Nodup, List.pairwise_map]
  -- Up to a full cycle the generations are their own remainders, so they stay different.
  refine List.nodup_range.imp_of_mem fun {g k} hg hk hne heq => hne ?_
  rw [List.mem_range] at hg hk
  have := (handleAt_inj hi hi heq).2
  rwa [Nat.mod_eq_of_lt (by omega), Nat.mod_eq_of_lt (by omega)] at this

/-- What was issued from a slot are the handles of its lives so far. -/
theorem Recounts.issued_lives (hr : t.Recounts I C R) (i : Nat) :
    ∃ n, (I.filter fun p => ofSlot i p.1).map Prod.fst = t.lives i n := by
  cases hs : t.slots[i]? with
  | none =>
    rw [(hr.slot_of hs).1]
    exact ⟨0, rfl⟩
  | some s =>
    cases s with
    | free g => exact ⟨_, (hr.slot_of hs).2.2.1⟩
    | occupied e => exact ⟨_, (hr.slot_of hs).2.1⟩

theorem filter_fst (i : Nat) (I : List (Handle × Handle)) :
    (I.filter fun p => ofSlot i p.1).map Prod.fst = (I.map Prod.fst).filter (ofSlot i) := by
  rw [List.filter_map]
  rfl

/-- Where no more handles were issued than there are generations, all of them differ. -/
theorem Recounts.nodup_issued (hr : t.Recounts I C R)
    (hlen : I.length ≤ Handle.generationLimit) : (I.map Prod.fst).Nodup := by
  rw [List.nodup_iff_count]
  intro h
  -- Handles of different slots differ anyway, so it is enough to count within one slot.
  by_cases hmem : h ∈ I.map Prod.fst
  · obtain ⟨p, hp, rfl⟩ := List.mem_map.mp hmem
    obtain ⟨i, hslot⟩ := hr.issued_slot p hp
    obtain ⟨n, hlives⟩ := hr.issued_lives i
    have hn : n ≤ Handle.generationLimit := by
      have hfilter := List.length_filter_le (fun p => ofSlot i p.1) I
      rw [← length_lives t i n, ← hlives, List.length_map]
      omega
    have hof : ofSlot i p.1 = true := ofSlot_iff.mpr hslot
    rw [← List.count_filter hof, ← filter_fst, hlives]
    exact List.nodup_iff_count.mp (nodup_lives t (Handle.lt_of_slot? hslot) hn) _
  · rw [List.count_eq_zero_of_not_mem hmem]
    exact Nat.zero_le 1

/-- While no more handles were issued than there are generations, the generation of a taken slot
did not wrap around. -/
theorem Recounts.count_lt (hr : t.Recounts I C R) (hlen : I.length ≤ Handle.generationLimit)
    {i : Nat} {e : HandleEntry} (hi : t.slots[i]? = some (.occupied e)) :
    R.count i < Handle.generationLimit := by
  -- What was issued from the slot is one more than was retired there.
  have hcount := congrArg List.length (hr.slot_of hi).2.1
  rw [List.length_map, length_lives] at hcount
  have hfilter := List.length_filter_le (fun p => ofSlot i p.1) I
  omega

/-- An earlier life of a taken slot had another handle. -/
theorem Recounts.handleAt_ne (ht : t.WellFormed) (hr : t.Recounts I C R)
    (hlen : I.length ≤ Handle.generationLimit) {i k : Nat} {e : HandleEntry}
    (hi : t.slots[i]? = some (.occupied e)) (hk : k < R.count i) :
    t.handleAt i k ≠ t.handleAt i e.generation := by
  intro heq
  have hcount : R.count i < Handle.generationLimit := hr.count_lt hlen hi
  -- Both generations are below the limit, so equal handles would mean equal generations.
  have hmod := (handleAt_inj (ht.slot_lt hi) (ht.slot_lt hi) heq).2
  rw [(hr.slot_of hi).1, Nat.mod_mod, Nat.mod_eq_of_lt (by omega), Nat.mod_eq_of_lt hcount] at hmod
  omega

/-- Where no more handles were issued than there are generations, no closed handle is open. -/
theorem Recounts.not_open_of_closed (ht : t.WellFormed) (hr : t.Recounts I C R)
    (hlen : I.length ≤ Handle.generationLimit) {h : Handle} (u : Handle) (hh : h ≠ .null)
    (hclosed : h ∈ C) : t.resolve h ≠ .ok u := by
  intro hres
  obtain ⟨o, ho, rfl, -⟩ := (resolve_eq_ok_iff ht hh).mp hres
  obtain ⟨i, e, hi, he, rfl⟩ := mem_openHandles_iff.mp ho
  obtain ⟨-, -, -, hlives⟩ := hr.slot_of hi
  simp only [he, ↓reduceIte] at hlives
  -- The handle is open, so it is of the latest life. It was closed, so it is of an earlier one.
  have hmem : t.handleAt i e.generation ∈ C.filter (ofSlot i) :=
    List.mem_filter.mpr ⟨hclosed, ofSlot_iff.mpr (slot?_handleAt ht (ht.slot_lt hi) _)⟩
  rw [hlives, lives, List.mem_map] at hmem
  obtain ⟨k, hk, heq⟩ := hmem
  exact hr.handleAt_ne ht hlen hi (List.mem_range.mp hk) heq

/-- A handle that a run closed successfully is among those it closed. -/
theorem mem_closedIn {pre post : List TableOp} {h u : Handle} (hh : h ≠ .null)
    (hok : ((t.run pre).close h).1 = .ok u) : h ∈ t.closedIn (pre ++ .close h :: post) := by
  have hnull : ¬h.isNull = true := Handle.not_isNull hh
  have hby : (t.run pre).closedBy (.close h) = [h] := by
    simp only [closedBy, hok, hnull, Bool.false_eq_true, ↓reduceIte]
  rw [closedIn, collect_append, collect, hby]
  simp

/-- Handles are not used again. In a run from a new table, a handle that is issued is neither open
nor remembered as closed at that moment. When one handle is issued twice, its slot was retired
2²⁸ times between, or more often. So while no more than 2²⁸ handles are issued they all differ,
and a closed handle neither resolves nor closes ever again. -/
theorem handles_not_reused (tag closedQueueMax capacity : Nat) (ops : List TableOp) :
    let start := withCapacity tag closedQueueMax capacity
    let t := start.run ops
    (∀ u h, u ≠ .null → (t.openHandle u).1 = .ok h →
      h ≠ .null ∧ h ∉ (t.openHandles 0).map OpenHandle.handle ∧ h ∉ t.closedHandles) ∧
    (∀ pre mid u u' h, ops = pre ++ .openHandle u :: mid → h ≠ .null →
      ((start.run pre).openHandle u).1 = .ok h → (t.openHandle u').1 = .ok h →
      ∃ slot, h.slot? = some slot ∧
        2 ^ 28 ≤ ((start.run (pre ++ [.openHandle u])).retired
          (mid ++ [.openHandle u'])).count slot) ∧
    ((start.issued ops).length ≤ 2 ^ 28 →
      ((start.issued ops).map Prod.fst).Nodup ∧
      ∀ pre post h u, ops = pre ++ .close h :: post → h ≠ .null →
        ((start.run pre).close h).1 = .ok u →
        ∀ u', t.resolve h ≠ .ok u' ∧ (t.close h).1 ≠ .ok u') := by
  intro start t
  have hstart : start.WellFormed := withCapacity_wellFormed tag closedQueueMax capacity
  have ht : t.WellFormed := run_wellFormed hstart ops
  have hr : t.Recounts (start.issued ops) (start.closedIn ops) (start.retired ops) :=
    run_recounts tag closedQueueMax capacity ops
  refine ⟨fun u h hu hok => ⟨issued_ne_null ht hu hok, issued_fresh ht hu hok⟩, ?_, ?_⟩
  · intro pre mid u u' h hops hh hok hok'
    have hpre : (start.run pre).WellFormed := run_wellFormed hstart pre
    have hsplit : t = ((start.run pre).perform (.openHandle u)).run mid := by
      rw [show t = start.run ops from rfl, hops, run_append, run_cons]
    rw [hsplit] at hok'
    rw [run_append, run_cons, run_nil]
    exact issued_again hpre (run_recounts tag closedQueueMax capacity pre) hh hok hok'
  · intro hlen
    refine ⟨hr.nodup_issued hlen, fun pre post h u hops hh hok u' => ?_⟩
    have hclosed : h ∈ start.closedIn ops := hops ▸ mem_closedIn hh hok
    have hres := hr.not_open_of_closed ht hlen u' hh hclosed
    exact ⟨hres, fun hclose => hres ((close_eq_ok_iff ht).mp hclose)⟩

/-- A slot that is used again issues another handle, and the first one stays closed. -/
theorem reopened_slot_issues_other_handle :
    let first : Handle := ⟨0x30000001⟩
    let second : Handle := ⟨0x1030000001⟩
    let t := (withCapacity 3 0 1).run [.openHandle ⟨7⟩, .close first]
    (t.openHandle ⟨8⟩).1 = .ok second ∧ second ∉ (t.openHandles 0).map OpenHandle.handle ∧
      second ∉ t.closedHandles ∧ ∀ u, t.resolve first ≠ .ok u := by
  have hclosed : (((withCapacity 3 0 1).run [.openHandle ⟨7⟩]).close ⟨0x30000001⟩).1 =
      .ok ⟨7⟩ := by cbv
  have hissued : (((withCapacity 3 0 1).run
      [.openHandle ⟨7⟩, .close ⟨0x30000001⟩]).openHandle ⟨8⟩).1 = .ok ⟨0x1030000001⟩ := by cbv
  intro first second t
  obtain ⟨hfresh, -, hshort⟩ := handles_not_reused 3 0 1 [.openHandle ⟨7⟩, .close first]
  obtain ⟨-, hnever⟩ := hshort (by decide +kernel)
  obtain ⟨-, hopen, hremembered⟩ := hfresh ⟨8⟩ second (by decide) hissued
  exact ⟨hissued, hopen, hremembered,
    fun u => (hnever [.openHandle ⟨7⟩] [] first ⟨7⟩ rfl (by decide) hclosed u).1⟩

end HandleGuard.HandleTable
