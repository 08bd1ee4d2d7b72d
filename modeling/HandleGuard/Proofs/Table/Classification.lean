import HandleGuard.Proofs.Table.Reuse

/-!
# What every value means to a table

`History.standing` says from outside what a 64-bit value is to a table: it looks at the bits of the
value and at what a run issued, closed and still remembers, and never at the slots. The main result,
`classification`, is that `resolve` and `close` answer every value accordingly, as long as the run
issued no more handles than there are generations. It takes both directions of the recount of a
slot:

* `Recounts.free_family`        all handles of a free slot are gone
* `Recounts.occupied_family`    only the latest handle of a taken slot is still held by it
-/

namespace HandleGuard

/-- What a run of a table did, seen from outside. -/
structure History where
  tag : Nat
  /-- The issued handles with the universal handles they are for, in the order of their issue. -/
  issued : List (Handle × Handle)
  closed : List Handle
  /-- The closed handles that are in the queue now. -/
  remembered : List Handle
deriving DecidableEq, Repr

/-- What a value is to a table. -/
inductive Standing where
  | null
  | malformed
  | foreign
  | neverIssued
  | opened (underlying : Handle)
  | closed
  | retired
  | stale
deriving DecidableEq, Repr

/-- How `resolve` answers for a value. -/
def Standing.resolved (h : Handle) : Standing → Except DebugError Handle
  | null => .ok .null
  | malformed => .error (.invalidHandle h .malformed)
  | foreign => .error (.invalidHandle h .foreignContext)
  | neverIssued => .error (.invalidHandle h .neverIssued)
  | opened u => .ok u
  | closed => .error (.useAfterClose h)
  | retired => .error (.invalidHandle h .retired)
  | stale => .error (.invalidHandle h .staleGeneration)

/-- How `close` answers for a value: as `resolve` does, but a closed handle is closed twice. -/
def Standing.closing (h : Handle) : Standing → Except DebugError Handle
  | closed => .error (.doubleClose h)
  | s => s.resolved h

namespace History

/-- The issued handles of the slot of `h`, in the order of their issue. -/
def family (H : History) (h : Handle) : List (Handle × Handle) :=
  H.issued.filter fun p => p.1.raw.toNat % 2 ^ 28 = h.raw.toNat % 2 ^ 28

/-- Whether an issued handle still takes its slot: it is open, or it is in the closed queue. -/
def held (H : History) (h : Handle) : Bool := h ∉ H.closed || h ∈ H.remembered

/-- What a value is when it is not held and `others` are the handles that may hold its slot. -/
def gone (H : History) (others : List (Handle × Handle)) : Standing :=
  if others.any fun p => H.held p.1 then .stale else .retired

/-- What `h` is when it has a slot field and the table's tag. -/
def amongIssued (H : History) (h : Handle) : Standing :=
  if H.family h = [] then .neverIssued
  else
    match (H.family h).lookup h with
    | some u =>
      if h ∉ H.closed then .opened u
      else if h ∈ H.remembered then .closed
      -- Only a handle that was issued from the slot after `h` can hold it now.
      else H.gone ((H.family h).dropWhile fun p => h != p.1)
    | none => H.gone (H.family h)

/-- What `h` is to a table with this history. -/
def standing (H : History) (h : Handle) : Standing :=
  if h = .null then .null
  else if h.raw.toNat % 2 ^ 28 = 0 then .malformed
  else if h.raw.toNat / 2 ^ 28 % 2 ^ 8 ≠ H.tag then .foreign
  else H.amongIssued h

theorem gone_eq_retired {H : History} {others : List (Handle × Handle)}
    (h : ∀ p ∈ others, H.held p.1 = false) : H.gone others = .retired := by
  rw [gone, if_neg]
  simpa using h

theorem gone_eq_stale {H : History} {others : List (Handle × Handle)} (p : Handle × Handle)
    (hp : p ∈ others) (h : H.held p.1 = true) : H.gone others = .stale := by
  rw [gone, if_pos]
  exact List.any_eq_true.mpr ⟨p, hp, h⟩

theorem held_eq_false_iff {H : History} {h : Handle} :
    H.held h = false ↔ h ∈ H.closed ∧ h ∉ H.remembered := by
  simp [held]

end History

namespace HandleTable

/-- The history of a table after a run. -/
def history (start : HandleTable) (ops : List TableOp) : History :=
  ⟨start.tag, start.issued ops, start.closedIn ops, (start.run ops).closedHandles⟩

/-- The history of a table that recounts these issued and closed handles. -/
def seen (t : HandleTable) (issued : List (Handle × Handle)) (closed : List Handle) : History :=
  ⟨t.tag, issued, closed, t.closedHandles⟩

variable {t : HandleTable} {I : List (Handle × Handle)} {C : List Handle} {R : List Nat}

/-! ### The handles of one slot -/

/-- Two values have the same slot field iff they have the same slot number. -/
theorem ofSlot_eq_decide {h h' : Handle} {i : Nat} (hi : h.slot? = some i) :
    ofSlot i h' = decide (h'.raw.toNat % 2 ^ 28 = h.raw.toNat % 2 ^ 28) := by
  rw [Handle.slot?_eq_some_iff] at hi
  rw [Bool.eq_iff_iff, decide_eq_true_iff, ofSlot, beq_iff_eq, Handle.slot?_eq_some_iff, ← hi]
  rfl

theorem History.family_eq {H : History} {h : Handle} {i : Nat} (hi : h.slot? = some i) :
    H.family h = H.issued.filter fun p => ofSlot i p.1 := by
  simp only [History.family, ofSlot_eq_decide hi]

section

variable (ht : t.WellFormed) (hr : t.Recounts I C R)

include ht

/-- A handle is remembered iff its slot holds it as closed. -/
theorem mem_closedHandles_of_slot? {h : Handle} {i : Nat} (hslot : h.slot? = some i) :
    h ∈ t.closedHandles ↔ ∃ e, t.slots[i]? = some (.occupied e) ∧ e.alive = false ∧
      h = t.handleAt i e.generation := by
  rw [mem_closedHandles_iff ht]
  constructor
  · rintro ⟨j, e, hj, he, rfl⟩
    rw [slot?_handleAt ht (ht.slot_lt hj)] at hslot
    cases hslot
    exact ⟨e, hj, he, rfl⟩
  · rintro ⟨e, hi, he, rfl⟩
    exact ⟨i, e, hi, he, rfl⟩

include hr

/-- All handles of a free slot are gone, and there are some. -/
theorem Recounts.free_family {i g : Nat} (hi : t.slots[i]? = some (.free g)) :
    (I.filter fun p => ofSlot i p.1) ≠ [] ∧
      ∀ p ∈ I.filter fun p => ofSlot i p.1, p.1 ∈ C ∧ p.1 ∉ t.closedHandles := by
  obtain ⟨hpos, -, hissued, hclosed⟩ := hr.slot_of hi
  constructor
  · intro hnil
    have hlen := congrArg List.length hissued
    rw [hnil, length_lives, List.map_nil, List.length_nil] at hlen
    omega
  · intro p hp
    have hof : p.1.slot? = some i := ofSlot_iff.mp (List.mem_filter.mp hp).2
    constructor
    · -- All lives of a free slot are over, so its handles were closed.
      have hmem : p.1 ∈ t.lives i (R.count i) := hissued ▸ List.mem_map_of_mem hp
      rw [← hclosed] at hmem
      exact (List.mem_filter.mp hmem).1
    · rw [mem_closedHandles_of_slot? ht hof, hi]
      rintro ⟨e, he, -⟩
      exact nomatch he

/-- Of the handles of a taken slot only the latest is held. It is open or remembered, as the slot's
entry says. -/
theorem Recounts.occupied_family (hlen : I.length ≤ Handle.generationLimit) {i : Nat}
    {e : HandleEntry} (hi : t.slots[i]? = some (.occupied e)) :
    ∃ init, (I.filter fun p => ofSlot i p.1) =
        init ++ [(t.handleAt i e.generation, e.underlying)] ∧
      (∀ p ∈ init, p.1 ≠ t.handleAt i e.generation ∧ p.1 ∈ C ∧ p.1 ∉ t.closedHandles) ∧
      (t.handleAt i e.generation ∈ C ↔ e.alive = false) ∧
      (t.handleAt i e.generation ∈ t.closedHandles ↔ e.alive = false) := by
  obtain ⟨hgen, hissued, hlast, hclosed⟩ := hr.slot_of hi
  have hlt := ht.slot_lt hi
  have hnodup : (t.lives i (R.count i + 1)).Nodup := by
    rw [← hissued, filter_fst]
    exact (hr.nodup_issued hlen).filter _
  have hat : t.handleAt i e.generation = t.handleAt i (R.count i) := by rw [hgen, handleAt_mod]
  rw [← hat] at hlast
  obtain ⟨init, hinit⟩ := List.getLast?_eq_some_iff.mp hlast
  rw [hinit, lives_succ, ← hat, List.map_append] at hissued
  obtain ⟨hearlier, -⟩ := List.append_inj' hissued rfl
  rw [lives_succ, ← hat, List.nodup_append] at hnodup
  have hother : ∀ h ∈ t.lives i (R.count i), h ≠ t.handleAt i e.generation := fun h hh =>
    hnodup.2.2 h hh _ (List.mem_singleton.mpr rfl)
  have hof : ofSlot i (t.handleAt i e.generation) = true :=
    ofSlot_iff.mpr (slot?_handleAt ht hlt _)
  refine ⟨init, hinit, fun p hp => ?_, ?_, ?_⟩
  · have hmem : p.1 ∈ t.lives i (R.count i) := hearlier ▸ List.mem_map_of_mem hp
    refine ⟨hother _ hmem, ?_, ?_⟩
    · -- All but the latest life of a slot ended with a close.
      have hin : p.1 ∈ C.filter (ofSlot i) := by
        rw [hclosed]
        split
        · exact hmem
        · rw [lives_succ]
          exact List.mem_append_left _ hmem
      exact (List.mem_filter.mp hin).1
    · have hp' : p ∈ I.filter fun p => ofSlot i p.1 := hinit ▸ List.mem_append_left _ hp
      have hslot : p.1.slot? = some i := ofSlot_iff.mp (List.mem_filter.mp hp').2
      rw [mem_closedHandles_of_slot? ht hslot]
      rintro ⟨e', hi', -, heq⟩
      rw [hi] at hi'
      cases hi'
      exact hother _ hmem heq
  · have hiff : t.handleAt i e.generation ∈ C ↔
        t.handleAt i e.generation ∈ C.filter (ofSlot i) := by
      rw [List.mem_filter, and_iff_left hof]
    rw [hiff, hclosed]
    cases he : e.alive with
    | true => simpa using fun hmem => hother _ hmem rfl
    | false => simp [lives_succ, hat]
  · rw [mem_closedHandles_of_slot? ht (slot?_handleAt ht hlt _), hi]
    simp

omit ht hr in
theorem family_seen {h : Handle} {i : Nat} (hslot : h.slot? = some i) :
    (t.seen I C).family h = I.filter fun p => ofSlot i p.1 :=
  History.family_eq hslot

/-! ### What a value is, by the state of its slot -/

variable {h : Handle} {i : Nat} (hslot : h.slot? = some i)

include hslot

omit ht in
/-- A value whose slot does not exist was never issued, and no other of its slot was. -/
theorem Recounts.amongIssued_of_none (hi : t.slots[i]? = none) :
    (t.seen I C).amongIssued h = .neverIssued := by
  rw [History.amongIssued, family_seen hslot]
  exact if_pos (hr.slot_of hi).1

/-- A value whose slot is free is retired. -/
theorem Recounts.amongIssued_of_free {g : Nat} (hi : t.slots[i]? = some (.free g)) :
    (t.seen I C).amongIssued h = .retired := by
  obtain ⟨hne, hgone⟩ := hr.free_family ht hi
  have hheld : ∀ p ∈ I.filter fun p => ofSlot i p.1, (t.seen I C).held p.1 = false :=
    fun p hp => History.held_eq_false_iff.mpr (hgone p hp)
  rw [History.amongIssued, family_seen hslot, if_neg hne]
  split
  · rename_i u hlookup
    have hmem : (h, u) ∈ I.filter fun p => ofSlot i p.1 := by
      obtain ⟨l₁, l₂, heq, -⟩ := List.lookup_eq_some_iff.mp hlookup
      simp [heq]
    obtain ⟨hclosed, hremembered⟩ := hgone _ hmem
    show (if h ∉ C then Standing.opened u else if h ∈ t.closedHandles then .closed else _) = _
    rw [if_neg (not_not_intro hclosed), if_neg hremembered]
    exact History.gone_eq_retired fun p hp => hheld p (List.dropWhile_sublist _ |>.mem hp)
  · exact History.gone_eq_retired hheld

/-- A value whose slot holds exactly this handle is open or remembered, as the entry says. -/
theorem Recounts.amongIssued_of_entry (hlen : I.length ≤ Handle.generationLimit)
    {e : HandleEntry} (hi : t.slots[i]? = some (.occupied e))
    (hh : h = t.handleAt i e.generation) :
    (t.seen I C).amongIssued h = if e.alive then .opened e.underlying else .closed := by
  obtain ⟨init, hfamily, hinit, hclosed, hremembered⟩ := hr.occupied_family ht hlen hi
  rw [← hh] at hfamily hinit hclosed hremembered
  have hlookup : ((t.seen I C).family h).lookup h = some e.underlying := by
    have hnone : init.lookup h = none :=
      List.lookup_eq_none_iff.mpr fun p hp => bne_iff_ne.mpr (hinit p hp).1.symm
    rw [family_seen hslot, hfamily, List.lookup_append, hnone]
    simp
  have hne : (t.seen I C).family h ≠ [] := by
    intro hnil
    rw [hnil] at hlookup
    exact nomatch hlookup
  rw [History.amongIssued, if_neg hne, hlookup]
  show (if h ∉ C then Standing.opened e.underlying
    else if h ∈ t.closedHandles then .closed else _) = _
  cases he : e.alive with
  | true =>
    rw [he] at hclosed
    rw [if_pos (fun hC => nomatch hclosed.mp hC)]
    rfl
  | false =>
    rw [if_neg (not_not_intro (hclosed.mpr he)), if_pos (hremembered.mpr he)]
    rfl

/-- A value whose slot holds another handle is stale. -/
theorem Recounts.amongIssued_of_other (hlen : I.length ≤ Handle.generationLimit)
    {e : HandleEntry} (hi : t.slots[i]? = some (.occupied e))
    (hh : h ≠ t.handleAt i e.generation) : (t.seen I C).amongIssued h = .stale := by
  obtain ⟨init, hfamily, hinit, hclosed, hremembered⟩ := hr.occupied_family ht hlen hi
  have hheld : (t.seen I C).held (t.handleAt i e.generation) = true := by
    rw [← Bool.not_eq_false, History.held_eq_false_iff]
    rintro ⟨hin, hout⟩
    exact hout (hremembered.mpr (hclosed.mp hin))
  have hfam : (t.seen I C).family h = init ++ [(t.handleAt i e.generation, e.underlying)] := by
    rw [family_seen hslot, hfamily]
  rw [History.amongIssued, hfam, if_neg (by simp)]
  split
  · rename_i u hlookup
    obtain ⟨l₁, l₂, heq, hbefore⟩ := List.lookup_eq_some_iff.mp hlookup
    -- The latest handle of the slot comes after `h`.
    have hlast : (t.handleAt i e.generation, e.underlying) ∈ (h, u) :: l₂ :=
      List.mem_cons_of_concat_eq heq
    have hmem : (h, u) ∈ init := by
      have hin : (h, u) ∈ init ++ [(t.handleAt i e.generation, e.underlying)] := by simp [heq]
      rcases List.mem_append.mp hin with hin | hin
      · exact hin
      · exact absurd (congrArg Prod.fst (List.mem_singleton.mp hin)) hh
    obtain ⟨-, hin, hout⟩ := hinit _ hmem
    show (if h ∉ C then Standing.opened u else if h ∈ t.closedHandles then .closed else _) = _
    rw [if_neg (not_not_intro hin), if_neg hout, heq, List.dropWhile_append_of_pos hbefore]
    refine History.gone_eq_stale (t.handleAt i e.generation, e.underlying) ?_ hheld
    simpa using hlast
  · exact History.gone_eq_stale _ (List.mem_append_right _ (List.mem_singleton.mpr rfl)) hheld

end

/-! ### The answers -/

/-- The tag bits of a value are the tag among its fields. -/
theorem tag_of_fields? {h : Handle} {f : Handle.Fields} (hf : h.fields? = some f) :
    h.raw.toNat / 2 ^ 28 % 2 ^ 8 = f.tag := by
  simp only [Handle.fields?] at hf
  split at hf
  · cases hf
  · cases hf
    rfl

/-- A value with a slot field and the table's tag is answered by the state of its slot. -/
private theorem Recounts.resolve_amongIssued (ht : t.WellFormed) (hr : t.Recounts I C R)
    (hlen : I.length ≤ Handle.generationLimit) {h : Handle} {f : Handle.Fields}
    (hnull : h ≠ .null) (hf : h.fields? = some f) (htag : f.tag = t.tag) :
    t.resolve h = ((t.seen I C).amongIssued h).resolved h := by
  have hslot : h.slot? = some f.slot := by
    rw [Handle.slot?, hf]
    rfl
  rw [resolve, if_neg (Handle.not_isNull hnull)]
  cases hi : t.slots[f.slot]? with
  | none =>
    have hlookup : t.lookup h = .error .neverIssued := by
      simp only [lookup, hf, htag, hi, ne_eq, not_true_eq_false, ↓reduceIte]
    rw [hr.amongIssued_of_none hslot hi, hlookup]
    rfl
  | some s =>
    cases s with
    | free g =>
      have hlookup : t.lookup h = .error .retired := by
        simp only [lookup, hf, htag, hi, ne_eq, not_true_eq_false, ↓reduceIte]
      rw [hr.amongIssued_of_free ht hslot hi, hlookup]
      rfl
    | occupied e =>
      by_cases hh : h = t.handleAt f.slot e.generation
      · rw [hr.amongIssued_of_entry ht hslot hlen hi hh, (lookup_eq_ok_iff ht).mpr ⟨hi, hh⟩]
        cases he : e.alive <;> simp [he, Standing.resolved]
      · -- Slot and tag are those of the entry's handle, so it is the generation that differs.
        have hgen : e.generation ≠ f.generation := by
          intro hgen
          rw [hgen, handleAt, ← htag] at hh
          exact hh (Handle.encode_of_fields? hf).symm
        have hlookup : t.lookup h = .error .staleGeneration := by
          simp only [lookup, hf, htag, hi, hgen, ne_eq, not_true_eq_false, not_false_eq_true,
            ↓reduceIte]
        rw [hr.amongIssued_of_other ht hslot hlen hi hh, hlookup]
        rfl

/-- As long as no more handles were issued than there are generations, `resolve` answers a value
as its standing says. -/
theorem Recounts.resolve_eq (ht : t.WellFormed) (hr : t.Recounts I C R)
    (hlen : I.length ≤ Handle.generationLimit) (h : Handle) :
    t.resolve h = ((t.seen I C).standing h).resolved h := by
  by_cases hnull : h = .null
  · subst hnull
    rw [History.standing, if_pos rfl]
    rfl
  · rw [History.standing, if_neg hnull]
    cases hf : h.fields? with
    | none =>
      have hlow : h.raw.toNat % 2 ^ 28 = 0 := Handle.fields?_eq_none_iff.mp hf
      have hlookup : t.lookup h = .error .malformed := by rw [lookup, hf]
      rw [if_pos hlow, resolve, if_neg (Handle.not_isNull hnull), hlookup]
      rfl
    | some f =>
      have hlow : ¬h.raw.toNat % 2 ^ 28 = 0 := fun hlow =>
        Option.some_ne_none f (hf.symm.trans (Handle.fields?_eq_none_iff.mpr hlow))
      rw [if_neg hlow, tag_of_fields? hf, show (t.seen I C).tag = t.tag from rfl]
      by_cases htag : f.tag = t.tag
      · rw [if_neg (not_not_intro htag)]
        exact hr.resolve_amongIssued ht hlen hnull hf htag
      · have hlookup : t.lookup h = .error .foreignContext := by
          simp only [lookup, hf, htag, ne_eq, not_false_eq_true, ↓reduceIte]
        rw [if_pos htag, resolve, if_neg (Handle.not_isNull hnull), hlookup]
        rfl

theorem Standing.closing_eq (s : Standing) (h : Handle) :
    s.closing h = match s.resolved h with
      | .error (.useAfterClose _) => .error (.doubleClose h)
      | answer => answer := by
  cases s <;> rfl

/-! ### Handles that left the closed queue -/

/-- A closed handle that is not remembered belongs to a life of its slot that was retired. -/
theorem Recounts.retired_life (ht : t.WellFormed) (hr : t.Recounts I C R) {h : Handle}
    (hclosed : h ∈ C) (hgone : h ∉ t.closedHandles) :
    ∃ i k, i < Handle.maxSlots ∧ k < R.count i ∧ h = t.handleAt i k := by
  obtain ⟨i, hslot⟩ := hr.closed_slot h hclosed
  have hlt := Handle.lt_of_slot? hslot
  have hmem : h ∈ C.filter (ofSlot i) := List.mem_filter.mpr ⟨hclosed, ofSlot_iff.mpr hslot⟩
  rw [mem_closedHandles_of_slot? ht hslot] at hgone
  cases hi : t.slots[i]? with
  | none =>
    rw [(hr.slot_of hi).2.1] at hmem
    exact nomatch hmem
  | some s =>
    cases s with
    | free g =>
      rw [(hr.slot_of hi).2.2.2, lives, List.mem_map] at hmem
      obtain ⟨k, hk, rfl⟩ := hmem
      exact ⟨i, k, hlt, List.mem_range.mp hk, rfl⟩
    | occupied e =>
      obtain ⟨hgen, -, -, hlives⟩ := hr.slot_of hi
      rw [hlives, lives, List.mem_map] at hmem
      obtain ⟨k, hk, rfl⟩ := hmem
      rw [List.mem_range] at hk
      -- The latest life of the slot is either open or remembered, so this is an earlier one.
      have hne : ¬(e.alive = false ∧ k = R.count i) := by
        rintro ⟨he, rfl⟩
        exact hgone ⟨e, hi, he, by rw [hgen, handleAt_mod]⟩
      refine ⟨i, k, hlt, ?_, rfl⟩
      cases he : e.alive with
      | true => simpa only [he, ↓reduceIte] using hk
      | false =>
        simp only [he, Bool.false_eq_true, ↓reduceIte, true_and] at hk hne
        omega

/-- A handle of a retired life has an invalid standing, for good. -/
theorem Recounts.standing_of_retired_life (ht : t.WellFormed) (hr : t.Recounts I C R)
    (hlen : I.length ≤ Handle.generationLimit) {i k : Nat} (hlt : i < Handle.maxSlots)
    (hk : k < R.count i) :
    (t.seen I C).standing (t.handleAt i k) = .retired ∨
      (t.seen I C).standing (t.handleAt i k) = .stale := by
  have hfields := ht.fields?_handleAt hlt k
  have hslot : (t.handleAt i k).slot? = some i := slot?_handleAt ht hlt k
  have hnull : t.handleAt i k ≠ .null := Handle.encode_ne_null _ hlt
  have hlow : ¬(t.handleAt i k).raw.toNat % 2 ^ 28 = 0 := fun hlow =>
    nomatch hfields.symm.trans (Handle.fields?_eq_none_iff.mpr hlow)
  have htag : ¬(t.handleAt i k).raw.toNat / 2 ^ 28 % 2 ^ 8 ≠ (t.seen I C).tag :=
    not_not_intro (tag_of_fields? hfields)
  rw [History.standing, if_neg hnull, if_neg hlow, if_neg htag]
  cases hi : t.slots[i]? with
  | none =>
    have hzero : R.count i = 0 := (hr.slot_of hi).2.2
    omega
  | some s =>
    cases s with
    | free g => exact .inl (hr.amongIssued_of_free ht hslot hi)
    | occupied e =>
      exact .inr (hr.amongIssued_of_other ht hslot hlen hi (hr.handleAt_ne ht hlen hi hk))

/-- A slot is free iff handles of it were issued and none of them holds it. -/
theorem Recounts.mem_free_iff (ht : t.WellFormed) (hr : t.Recounts I C R)
    (hlen : I.length ≤ Handle.generationLimit) {h : Handle} {i : Nat} (hslot : h.slot? = some i) :
    i ∈ t.free ↔ (t.seen I C).family h ≠ [] ∧
      ∀ p ∈ (t.seen I C).family h, (t.seen I C).held p.1 = false := by
  rw [family_seen hslot, ht.mem_free]
  simp only [History.held_eq_false_iff]
  constructor
  · rintro ⟨g, hi⟩
    exact hr.free_family ht hi
  · rintro ⟨hne, hgone⟩
    cases hi : t.slots[i]? with
    | none => exact absurd (hr.slot_of hi).1 hne
    | some s =>
      cases s with
      | free g => exact ⟨g, rfl⟩
      | occupied e =>
        obtain ⟨init, hfamily, -, hclosed, hremembered⟩ := hr.occupied_family ht hlen hi
        obtain ⟨hin, hout⟩ := hgone (t.handleAt i e.generation, e.underlying) (by simp [hfamily])
        exact absurd (hremembered.mpr (hclosed.mp hin)) hout

/-- In a run from a new table that issues no more than 2²⁸ handles, `resolve` and `close` answer
every 64-bit value as the history of the run says: by its bits, and by what was issued from its
slot, closed since and still remembered. A closed handle that left the queue is invalid forever. Its
slot is free iff no handle of the slot holds it. -/
theorem classification (tag closedQueueMax capacity : Nat) (ops : List TableOp)
    (hissued : ((withCapacity tag closedQueueMax capacity).issued ops).length ≤ 2 ^ 28)
    (h : Handle) :
    let start := withCapacity tag closedQueueMax capacity
    let t := start.run ops
    let H := start.history ops
    t.resolve h = (H.standing h).resolved h ∧
    (t.close h).1 = (H.standing h).closing h ∧
    (∀ pre post, ops = pre ++ post → h ∈ start.closedIn pre →
      h ∉ (start.run pre).closedHandles → H.standing h = .retired ∨ H.standing h = .stale) ∧
    (∀ slot, h.raw.toNat % 2 ^ 28 = slot + 1 →
      (slot ∈ t.free ↔ H.family h ≠ [] ∧ ∀ p ∈ H.family h, H.held p.1 = false)) := by
  intro start t H
  have hstart : start.WellFormed := withCapacity_wellFormed tag closedQueueMax capacity
  have ht : t.WellFormed := run_wellFormed hstart ops
  have hr : t.Recounts (start.issued ops) (start.closedIn ops) (start.retired ops) :=
    run_recounts tag closedQueueMax capacity ops
  have hH : H = t.seen (start.issued ops) (start.closedIn ops) := by
    show History.mk start.tag _ _ _ = _
    rw [← (run_frame hstart ops).1]
    rfl
  rw [hH]
  have hres := hr.resolve_eq ht hissued h
  refine ⟨hres, ?_, ?_, ?_⟩
  · rw [close_answer ht, hres]
    exact (Standing.closing_eq _ h).symm
  · intro pre post hops hclosed hgone
    have hpre : (start.run pre).WellFormed := run_wellFormed hstart pre
    have hrpre : (start.run pre).Recounts (start.issued pre) (start.closedIn pre)
      (start.retired pre) := run_recounts tag closedQueueMax capacity pre
    obtain ⟨i, k, hlt, hk, rfl⟩ := hrpre.retired_life hpre hclosed hgone
    -- Later retirements only add to the count.
    have hcount : (start.retired pre).count i ≤ (start.retired ops).count i := by
      rw [hops, retired, retired, collect_append, List.count_append]
      omega
    rw [run_handleAt hstart, ← run_handleAt hstart ops]
    exact hr.standing_of_retired_life ht hissued hlt (by omega)
  · intro slot hslot
    exact hr.mem_free_iff ht hissued (Handle.slot?_eq_some_iff.mpr hslot)

/-- Two handles are closed while the queue has room for one: the first is stale as soon as its slot
is used again, and the second is still known. -/
theorem classification_after_reuse :
    let first : Handle := ⟨0x30000001⟩
    let second : Handle := ⟨0x30000002⟩
    let ops : List TableOp := [.openHandle ⟨7⟩, .openHandle ⟨8⟩, .close first, .close second,
      .openHandle ⟨9⟩]
    let t := (withCapacity 3 1 2).run ops
    ((withCapacity 3 1 2).issued ops).length ≤ 2 ^ 28 ∧
      t.resolve first = .error (.invalidHandle first .staleGeneration) ∧
      t.resolve second = .error (.useAfterClose second) ∧
      (t.close second).1 = .error (.doubleClose second) := by
  intro first second ops t
  have hissued : ((withCapacity 3 1 2).issued ops).length ≤ 2 ^ 28 := by decide +kernel
  have hfirst : ((withCapacity 3 1 2).history ops).standing first = .stale := by decide +kernel
  have hsecond : ((withCapacity 3 1 2).history ops).standing second = .closed := by decide +kernel
  have hstale := (classification 3 1 2 ops hissued first).1
  obtain ⟨hres, hclose, -, -⟩ := classification 3 1 2 ops hissued second
  rw [hfirst] at hstale
  rw [hsecond] at hres hclose
  exact ⟨hissued, hstale, hres, hclose⟩

end HandleTable

end HandleGuard
