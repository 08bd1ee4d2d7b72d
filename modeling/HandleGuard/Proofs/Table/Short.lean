import HandleGuard.Diagnostic
import HandleGuard.Proofs.Table.Bindings
import HandleGuard.Proofs.Table.Growth
import HandleGuard.Proofs.Table.Reuse

/-!
# Tables with a short history

A table that has issued no more handles than it may have slots never issues a handle twice, and
never gives a closed handle up for want of a slot. So what it says of any handle that it issued
follows from two lists alone, the handles that were issued and those that were closed
(`ShortHistory`). In particular it depends on the bound of the closed queue in one way only: whether a
closed handle is among the latest ones decides which error it gets.

* `resolve_open`, `resolve_closed`, `close_closed`   what the table says of a handle
* `ShortHistory.openHandle`, `ShortHistory.close`    how the lists grow
-/

namespace HandleGuard.HandleTable

variable {t : HandleTable} {issued : List (Handle × Handle)} {closed : List Handle} {h u : Handle}

/-- The handles that a table issued, each with what it stands for, and those that were closed,
latest first. There were no more of them than the table may have slots. -/
structure ShortHistory (t : HandleTable) (issued : List (Handle × Handle)) (closed : List Handle) :
    Prop where
  wellFormed : t.WellFormed
  recounts : ∃ C R, t.Recounts issued C R
  size_le : t.slots.size ≤ issued.length
  issued_le : issued.length ≤ t.capacity
  closed_issued : ∀ h ∈ closed, h ∈ issued.map Prod.fst
  bindings : t.bindings.Perm (issued.filter fun p => p.1 ∉ closed)
  closedHandles : t.closedHandles.reverse = closed.take t.closedQueueMax

theorem withCapacity_shortHistory (tag closedQueueMax capacity : Nat) :
    (withCapacity tag closedQueueMax capacity).ShortHistory [] [] where
  wellFormed := withCapacity_wellFormed tag closedQueueMax capacity
  recounts := ⟨[], [], withCapacity_recounts tag closedQueueMax capacity⟩
  size_le := Nat.le_refl 0
  issued_le := Nat.zero_le _
  closed_issued := nofun
  bindings := .refl _
  closedHandles := by rw [List.take_nil]; rfl

/-- Why a closed handle is refused: it depends on whether it is among the latest ones. -/
def refusal (closedQueueMax : Nat) (closed : List Handle) (remembered : DiagnosticCode)
    (h : Handle) : DiagnosticCode :=
  if h ∈ closed.take closedQueueMax then remembered else .invalidHandle

/-- A value resolves, or is a closed handle that is remembered, or means nothing. -/
theorem resolve_cases (hh : h ≠ .null) :
    (∃ u, t.resolve h = .ok u) ∨ t.resolve h = .error (.useAfterClose h) ∨
      ∃ reason, t.resolve h = .error (.invalidHandle h reason) := by
  rw [resolve, if_neg (Handle.not_isNull hh)]
  cases t.lookup h with
  | error reason => exact .inr (.inr ⟨reason, rfl⟩)
  | ok p =>
    cases halive : p.2.alive with
    | true => exact .inl ⟨_, if_pos halive⟩
    | false => exact .inr (.inl (if_neg (by rw [halive]; exact Bool.false_ne_true)))

namespace ShortHistory

variable (hs : t.ShortHistory issued closed)

include hs

theorem nodup : (issued.map Prod.fst).Nodup := by
  obtain ⟨C, R, hr⟩ := hs.recounts
  have hcapacity := hs.wellFormed.capacity_le
  have hissued := hs.issued_le
  refine hr.nodup_issued ?_
  simp only [Handle.maxSlots, Handle.slotLimit, Handle.generationLimit] at *
  omega

theorem ne_null (hmem : (h, u) ∈ issued) : h ≠ .null := by
  obtain ⟨C, R, hr⟩ := hs.recounts
  obtain ⟨i, hi⟩ := hr.issued_slot _ hmem
  rintro rfl
  exact nomatch hi

/-! ### What the table says of a handle -/

/-- A handle that was issued and not closed stands for what it was issued for. -/
theorem resolve_open (hmem : (h, u) ∈ issued) (hopen : h ∉ closed) : t.resolve h = .ok u := by
  rw [← mem_bindings_iff hs.wellFormed (hs.ne_null hmem), hs.bindings.mem_iff, List.mem_filter]
  exact ⟨hmem, decide_eq_true hopen⟩

/-- The closed handles that the table remembers are the latest ones. -/
theorem resolve_eq_useAfterClose_iff (hmem : (h, u) ∈ issued) :
    t.resolve h = .error (.useAfterClose h) ↔ h ∈ closed.take t.closedQueueMax := by
  have hviews : t.resolve h = .error (.useAfterClose h) ↔ h ∈ t.closedHandles :=
    (closed_views hs.wellFormed (hs.ne_null hmem)).out 0 1
  rw [hviews, ← hs.closedHandles, List.mem_reverse]

/-- A closed handle is refused. -/
theorem resolve_closed (hmem : (h, u) ∈ issued) (hclosed : h ∈ closed) :
    ∃ e, t.resolve h = .error e ∧ e.code = refusal t.closedQueueMax closed .useAfterClose h := by
  have hh := hs.ne_null hmem
  have hremembered := hs.resolve_eq_useAfterClose_iff hmem
  obtain ⟨v, hok⟩ | hused | ⟨reason, hinvalid⟩ := resolve_cases (t := t) hh
  · -- It would be bound, but bound handles are not closed.
    rw [← mem_bindings_iff hs.wellFormed hh, hs.bindings.mem_iff, List.mem_filter] at hok
    exact absurd hclosed (of_decide_eq_true hok.2)
  · exact ⟨_, hused, (if_pos (hremembered.mp hused)).symm⟩
  · refine ⟨_, hinvalid, (if_neg fun htake => ?_).symm⟩
    rw [hremembered.mpr htake] at hinvalid
    exact nomatch hinvalid

/-- A closed handle cannot be closed again. -/
theorem close_closed (hmem : (h, u) ∈ issued) (hclosed : h ∈ closed) :
    ∃ e, t.close h = (.error e, t) ∧ e.code = refusal t.closedQueueMax closed .doubleClose h := by
  have hh := hs.ne_null hmem
  have hremembered := hs.resolve_eq_useAfterClose_iff hmem
  have hanswer := close_answer hs.wellFormed h
  obtain ⟨e, hres, -⟩ := hs.resolve_closed hmem hclosed
  obtain ⟨hnull, -⟩ | ⟨v, t', hclose, -⟩ | ⟨e', hclose, -⟩ := close_bindings hs.wellFormed h
  · exact absurd hnull hh
  · have hok := (close_eq_ok_iff hs.wellFormed).mp (congrArg Prod.fst hclose)
    rw [hres] at hok
    exact nomatch hok
  · refine ⟨e', hclose, ?_⟩
    rw [hclose] at hanswer
    -- The error is the one of a use, but for the name of a second close.
    obtain ⟨v, hok⟩ | hused | ⟨reason, hinvalid⟩ := resolve_cases (t := t) hh
    · rw [hok] at hres
      exact nomatch hres
    · rw [hused] at hanswer
      cases hanswer
      exact (if_pos (hremembered.mp hused)).symm
    · rw [hinvalid] at hanswer hremembered
      cases hanswer
      exact (if_neg fun htake => nomatch hremembered.mpr htake).symm

/-! ### How the lists grow -/

/-- While there is room a handle is issued that was never issued before. -/
theorem openHandle (hu : u ≠ .null) (hroom : issued.length < t.capacity) :
    ∃ h t', t.openHandle u = (.ok h, t') ∧ h ∉ issued.map Prod.fst ∧
      t'.ShortHistory (issued ++ [(h, u)]) closed ∧
      t'.bindings.Perm ((h, u) :: t.bindings) ∧ t'.capacity = t.capacity ∧
      t'.closedQueueMax = t.closedQueueMax ∧ t'.leakGeneration = t.leakGeneration := by
  have ht := hs.wellFormed
  have hsize := hs.size_le
  obtain ⟨C, R, hr⟩ := hs.recounts
  obtain ⟨i, h, t', hopen, hstep⟩ | ⟨_, _, _, _, -, -, -, -, hfull⟩ | ⟨-, -, hfull, -⟩ :=
    openHandle_cases ht hu
  · have hok : (t.openHandle u).1 = .ok h := by rw [hopen]
    have hh := issued_ne_null ht hu hok
    have hr' : t'.Recounts (issued ++ [(h, u)]) C R := by
      have hnext := hr.step ht hstep
      simpa only [TableEvent.issued?, TableEvent.closed?, TableEvent.retired?, Option.toList_some,
        Option.toList_none, List.append_nil] using hnext
    have hlen : (issued ++ [(h, u)]).length ≤ Handle.generationLimit := by
      have hcapacity := ht.capacity_le
      rw [List.length_append, List.length_singleton]
      simp only [Handle.maxSlots, Handle.slotLimit, Handle.generationLimit] at *
      omega
    have hnodup := hr'.nodup_issued hlen
    rw [List.map_append, List.nodup_append] at hnodup
    have hfresh : h ∉ issued.map Prod.fst := fun hmem =>
      hnodup.2.2 h hmem h (List.mem_singleton.mpr rfl) rfl
    obtain ⟨hmax, hgeneration⟩ := hstep.dials (by simp)
    have hbindings : t'.bindings.Perm ((h, u) :: t.bindings) := hstep.issued_openHandles.map _
    refine ⟨h, t', hopen, hfresh, ?_, hbindings, hstep.frame.2, hmax, hgeneration⟩
    refine ⟨hstep.wellFormed ht, ⟨C, R, hr'⟩, ?_, ?_, fun k hk => ?_, ?_, ?_⟩
    · have hsize' := hstep.issued_grows.size_le
      rw [List.length_append, List.length_singleton]
      omega
    · rw [List.length_append, List.length_singleton, hstep.frame.2]
      exact hroom
    · rw [List.map_append]
      exact List.mem_append_left _ (hs.closed_issued k hk)
    · have hclosed : h ∉ closed := fun hmem => hfresh (hs.closed_issued h hmem)
      have hnew : ([(h, u)].filter fun p => p.1 ∉ closed) = [(h, u)] :=
        List.filter_cons_of_pos (decide_eq_true hclosed)
      rw [List.filter_append, hnew]
      refine (hbindings.trans (hs.bindings.cons (h, u))).trans ?_
      exact (List.perm_append_singleton _ _).symm
    · rw [hstep.issued_closedHandles ht, hmax]
      exact hs.closedHandles
  · omega
  · omega

/-- A handle that was issued and not closed can be closed. -/
theorem close (hmem : (h, u) ∈ issued) (hopen : h ∉ closed) :
    ∃ t', t.close h = (.ok u, t') ∧ t'.ShortHistory issued (h :: closed) ∧
      t.bindings.Perm ((h, u) :: t'.bindings) ∧ t'.capacity = t.capacity ∧
      t'.closedQueueMax = t.closedQueueMax ∧ t'.leakGeneration = t.leakGeneration := by
  have ht := hs.wellFormed
  have hh := hs.ne_null hmem
  have hok := (close_eq_ok_iff ht).mpr (hs.resolve_open hmem hopen)
  have hremembers := close_remembers ht hh hok
  -- The binding that goes is the one of `h`, and no other has this handle.
  have hperm : t.bindings.Perm ((h, u) :: (t.close h).2.bindings) := by
    obtain ⟨hnull, -⟩ | ⟨v, t', hclose, -, -, -, -, hperm⟩ | ⟨e, hclose, -⟩ := close_bindings ht h
    · exact absurd hnull hh
    · rw [hclose] at hok ⊢
      cases hok
      exact hperm
    · rw [hclose] at hok
      exact nomatch hok
  obtain ⟨_, -, hclose⟩ | ⟨_, _, -, -, hclose⟩ | ⟨i, e, t₁, -, -, hstep, -, -, hclose⟩ :=
    close_cases ht hh
  · rw [hclose] at hok
    exact nomatch hok
  · rw [hclose] at hok
    exact nomatch hok
  · obtain ⟨rs, htrim, -⟩ := trim_trace (hstep.wellFormed ht)
    have htrace : Trace t (.closed i h :: rs.map .retired) t₁.trim := .cons hstep htrim
    obtain ⟨hmax, hgeneration⟩ := htrace.dials (by simp)
    obtain ⟨C, R, hr⟩ := hs.recounts
    rw [hclose] at hok hremembers hperm
    cases hok
    refine ⟨t₁.trim, hclose, ⟨htrace.wellFormed ht, ?_, ?_, ?_, ?_, ?_, ?_⟩, hperm,
      htrace.frame.2, hmax, hgeneration⟩
    · have hr' := hr.trace ht htrace
      rw [List.filterMap_cons_none rfl, List.filterMap_map, TableEvent.filterMap_issued?_retired,
        List.append_nil] at hr'
      exact ⟨_, _, hr'⟩
    · rw [htrace.size_eq (by simp [TableEvent.issued?])]
      exact hs.size_le
    · rw [htrace.frame.2]
      exact hs.issued_le
    · intro k hk
      rcases List.mem_cons.mp hk with rfl | hk
      · exact List.mem_map_of_mem hmem
      · exact hs.closed_issued k hk
    · have hdrop := (hperm.symm.trans hs.bindings).filter fun p => p.1 ≠ h
      have hkeep : t₁.trim.bindings.filter (fun p => p.1 ≠ h) = t₁.trim.bindings :=
        List.filter_eq_self.mpr fun p hp => decide_eq_true (fst_ne_of_perm ht hperm p hp)
      rw [List.filter_cons_of_neg (by simp), hkeep, List.filter_filter] at hdrop
      refine hdrop.trans (.of_eq (List.filter_congr fun p _ => ?_))
      simp [List.mem_cons, not_or]
    · rw [hremembers, hs.closedHandles, hmax]
      cases t.closedQueueMax with
      | zero => rfl
      | succ n => rw [List.take_succ_cons, List.take_succ_cons, List.take_take, Nat.min_eq_left
          (Nat.le_succ n)]

theorem newGeneration : t.newGeneration.ShortHistory issued closed := by
  obtain ⟨C, R, hr⟩ := hs.recounts
  have hdial : Step t .dialled t.newGeneration := .dial t.closedQueueMax (t.leakGeneration + 1)
  refine { hs with wellFormed := hdial.wellFormed hs.wellFormed, recounts := ⟨C, R, ?_⟩ }
  have hr' := hr.step hs.wellFormed hdial
  simpa only [TableEvent.issued?, TableEvent.closed?, TableEvent.retired?, Option.toList_none,
    List.append_nil] using hr'

end ShortHistory

end HandleGuard.HandleTable
