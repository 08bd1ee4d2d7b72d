import HandleGuard.Proofs.Table.Bindings
import HandleGuard.Proofs.Table.Reuse
import HandleGuard.Proofs.Table.Views
import Mathlib.Algebra.Group.Nat.Defs

/-!
# Leak generations tell when a handle was opened

Each open handle bears the number of the leak generation in which it was opened. As long as the
number does not wrap around, the stamps are in the order of the operations: whoever starts a
generation and lists the open handles of that generation and later has exactly those that were
opened since.

* `openHandles_since`        a listing by generation is a part of the listing of all open handles
* `pairwise_slot_openHandles` a listing is in slot order
* `Stamped.run`              no stamp is from the future
* `Watched.run`              the stamps tell what was opened since a generation
* `mem_openHandles_since_iff` what a listing by generation lists
-/

namespace HandleGuard.HandleTable

/-- How many leak generations a run starts. -/
def generations (ops : List TableOp) : Nat := ops.count .newGeneration

theorem generations_append (ops ops' : List TableOp) :
    generations (ops ++ ops') = generations ops + generations ops' :=
  List.count_append

theorem generations_cons (op : TableOp) (ops : List TableOp) :
    generations (op :: ops) = generations [op] + generations ops :=
  generations_append [op] ops

theorem generations_of_ne {op : TableOp} (hop : op ≠ .newGeneration) : generations [op] = 0 :=
  List.count_eq_zero.mpr (by simpa using Ne.symm hop)

variable {t t' : HandleTable}

/-! ### Listings by generation -/

/-- A listing by generation leaves out the handles with earlier stamps. -/
theorem openHandles_since (t : HandleTable) (since : UInt64) :
    t.openHandles since = (t.openHandles 0).filter fun o => since ≤ o.openedIn := by
  rw [openHandles_eq, List.filter_filterMap, openHandles]
  congr 1
  funext p
  obtain ⟨s, i⟩ := p
  cases s with
  | free g => rfl
  | occupied e => cases he : e.alive <;> simp [openAt, he, Option.filter]

theorem mem_openHandles_since {since : UInt64} {o : OpenHandle} :
    o ∈ t.openHandles since ↔ o ∈ t.openHandles 0 ∧ since ≤ o.openedIn := by
  rw [openHandles_since, List.mem_filter, decide_eq_true_iff]

/-- The slot of the one handle comes before the slot of the other. -/
def SlotBefore (h k : Handle) : Prop := ∃ i j, h.slot? = some i ∧ k.slot? = some j ∧ i < j

/-- Handles are listed in slot order. -/
theorem pairwise_slot_openHandles (ht : t.WellFormed) (since : UInt64) :
    (t.openHandles since).Pairwise fun o p => SlotBefore o.handle p.handle := by
  rw [openHandles_since, openHandles_eq]
  refine .filter _ (List.pairwise_filterMap_zipIdx _ fun {i j s s' o o'} hij hi hj ho ho' => ?_)
  rw [Array.getElem?_toList] at hi hj
  obtain ⟨g, hg⟩ := handle_of_openAt ho
  obtain ⟨k, hk⟩ := handle_of_openAt ho'
  exact ⟨i, j, hg ▸ slot?_handleAt ht (ht.slot_lt hi) g,
    hk ▸ slot?_handleAt ht (ht.slot_lt hj) k, hij⟩

/-! ### What operations do to stamps -/

/-- A handle that is open after a step was open before, or the step issued it with the stamp of the
present generation. -/
theorem Step.mem_openHandles {ev : TableEvent} (hs : Step t ev t') {o : OpenHandle}
    (ho : o ∈ t'.openHandles 0) : o ∈ t.openHandles 0 ∨
      ev.issued? = some (o.handle, o.underlying) ∧ o.openedIn = t.leakGeneration := by
  cases ev with
  | issued i h u =>
    rcases List.mem_cons.mp (hs.issued_openHandles.mem_iff.mp ho) with rfl | ho
    · exact .inr ⟨rfl, rfl⟩
    · exact .inl ho
  | closed i h =>
    obtain ⟨e, -, -, hperm⟩ := hs.closed_openHandles
    exact .inl (hperm.mem_iff.mpr (List.mem_cons_of_mem _ ho))
  | retired i => exact .inl (hs.retired_openHandles.mem_iff.mp ho)
  | dialled => exact .inl (hs.dialled_openHandles ▸ ho)

/-- While no dial is turned, the generation stays as it is, and what is issued bears its stamp. -/
theorem Trace.stamps {evs : List TableEvent} (h : Trace t evs t') (hevs : .dialled ∉ evs) :
    t'.leakGeneration = t.leakGeneration ∧
    ∀ o ∈ t'.openHandles 0, o ∈ t.openHandles 0 ∨
      (o.handle, o.underlying) ∈ evs.filterMap TableEvent.issued? ∧
        o.openedIn = t.leakGeneration := by
  induction h with
  | nil t => exact ⟨rfl, fun o ho => .inl ho⟩
  | @cons t t₁ t' ev evs hstep _ ih =>
    rw [List.mem_cons, not_or] at hevs
    obtain ⟨hgeneration, hopen⟩ := ih hevs.2
    have hfirst := (hstep.dials (Ne.symm hevs.1)).2
    refine ⟨hgeneration.trans hfirst, fun o ho => ?_⟩
    rcases hopen o ho with ho | ⟨hissued, hstamp⟩
    · rcases hstep.mem_openHandles ho with ho | ⟨hissued, hstamp⟩
      · exact .inl ho
      · exact .inr ⟨List.mem_filterMap.mpr ⟨ev, List.mem_cons_self, hissued⟩, hstamp⟩
    · obtain ⟨ev', hmem, hev'⟩ := List.mem_filterMap.mp hissued
      exact .inr ⟨List.mem_filterMap.mpr ⟨ev', List.mem_cons_of_mem ev hmem, hev'⟩,
        hstamp.trans hfirst⟩

section

variable (ht : t.WellFormed)

include ht

/-- Only `newGeneration` changes the leak generation. A handle that is open after another operation
was open before, or it was issued by the operation and bears the stamp of the present generation. -/
theorem perform_stamps {op : TableOp} (hop : op ≠ .newGeneration) :
    (t.perform op).leakGeneration = t.leakGeneration ∧
    ∀ o ∈ (t.perform op).openHandles 0, o ∈ t.openHandles 0 ∨
      (o.handle, o.underlying) ∈ t.issuedBy op ∧ o.openedIn = t.leakGeneration := by
  have hsame : t.perform op = t → (t.perform op).leakGeneration = t.leakGeneration ∧
      ∀ o ∈ (t.perform op).openHandles 0, o ∈ t.openHandles 0 ∨
        (o.handle, o.underlying) ∈ t.issuedBy op ∧ o.openedIn = t.leakGeneration := by
    intro hsame
    rw [hsame]
    exact ⟨rfl, fun o ho => .inl ho⟩
  cases op with
  | openHandle u =>
    by_cases hu : u = .null
    · subst hu
      exact hsame rfl
    · cases hok : (t.openHandle u).1 with
      | error e =>
        obtain ⟨_, _, _, hopen, -⟩ | ⟨_, _, _, _, hopen, -⟩ | ⟨hfull, -⟩ := openHandle_cases ht hu
        · rw [hopen] at hok
          cases hok
        · rw [hopen] at hok
          cases hok
        · exact hsame (by rw [perform, hfull])
      | ok h =>
        obtain ⟨-, i, rs, t₁, -, -, hby⟩ := openHandle_performedBy ht hu hok
        rw [hby.issued]
        exact hby.trace.stamps (by simp)
  | resolve h => exact hsame rfl
  | close h =>
    by_cases hh : h = .null
    · subst hh
      exact hsame rfl
    · obtain ⟨_, -, hclose⟩ | ⟨_, _, -, -, hclose⟩ | ⟨_, _, t₁, -, -, hs, -, -, hclose⟩ :=
        close_cases ht hh
      · exact hsame (by rw [perform, hclose])
      · exact hsame (by rw [perform, hclose])
      · obtain ⟨rs, htrim, -⟩ := trim_trace (hs.wellFormed ht)
        have hstamps := (Trace.cons hs htrim).stamps (by simp)
        rw [List.filterMap_cons_none rfl, List.filterMap_map, TableEvent.filterMap_issued?_retired]
          at hstamps
        rw [perform, hclose]
        exact hstamps
  | setClosedQueueMax max =>
    have hdial : Step t .dialled { t with closedQueueMax := max } := .dial max t.leakGeneration
    obtain ⟨rs, htrim, -⟩ := trim_trace (hdial.wellFormed ht)
    have hstamps := htrim.stamps (not_mem_map_retired rs)
    rw [List.filterMap_map, TableEvent.filterMap_issued?_retired] at hstamps
    exact hstamps
  | newGeneration => exact absurd rfl hop

/-- What is open after an operation, stamped before or now. -/
theorem mem_openHandles_perform {op : TableOp} {o : OpenHandle}
    (ho : o ∈ (t.perform op).openHandles 0) : o ∈ t.openHandles 0 ∨
      (o.handle, o.underlying) ∈ t.issuedBy op ∧ o.openedIn = t.leakGeneration := by
  by_cases hop : op = .newGeneration
  · subst hop
    exact .inl ho
  · exact (perform_stamps ht hop).2 o ho

omit ht in
/-- What an operation issues is what `openHandle` answered, if that is not null. -/
theorem mem_issuedBy {op : TableOp} {p : Handle × Handle} (hp : p ∈ t.issuedBy op) :
    op = .openHandle p.2 ∧ (t.openHandle p.2).1 = .ok p.1 ∧ p.1 ≠ .null := by
  cases op with
  | openHandle u =>
    rw [issuedBy] at hp
    split at hp
    · rename_i h hok
      split at hp
      · exact absurd hp List.not_mem_nil
      · rename_i hnull
        rw [List.mem_singleton] at hp
        subst hp
        exact ⟨rfl, hok, fun hh => hnull (Handle.isNull_iff.mpr hh)⟩
    · exact absurd hp List.not_mem_nil
  | _ => exact absurd hp List.not_mem_nil

/-- What an operation issues is not null, and no open handle. -/
theorem issuedBy_fresh {op : TableOp} {p : Handle × Handle} (hp : p ∈ t.issuedBy op) :
    p.1 ≠ .null ∧ p.1 ∉ (t.openHandles 0).map OpenHandle.handle := by
  obtain ⟨-, hok, hh⟩ := mem_issuedBy hp
  exact ⟨hh, (issued_fresh ht (ne_null_of_openHandle hh hok) hok).1⟩

/-- No run issues null. -/
theorem issued_fst_ne_null {ops : List TableOp} {p : Handle × Handle} (hp : p ∈ t.issued ops) :
    p.1 ≠ .null := by
  induction ops generalizing t with
  | nil => exact nomatch hp
  | cons op ops ih =>
    rcases List.mem_append.mp hp with hp | hp
    · exact (issuedBy_fresh ht hp).1
    · exact ih (perform_wellFormed ht op) hp

end

/-! ### Runs -/

/-- The table is in leak generation `n`, and no open handle has a later stamp. -/
structure Stamped (t : HandleTable) (n : Nat) : Prop where
  leakGeneration_eq : t.leakGeneration.toNat = n
  openedIn_le : ∀ o ∈ t.openHandles 0, o.openedIn.toNat ≤ n

/-- The stamps tell that of the open handles exactly those in `opened` were opened in leak
generation `since` or later. -/
structure Watched (t : HandleTable) (since : UInt64) (opened : List (Handle × Handle)) : Prop where
  listed : ∀ o ∈ t.openHandles 0, since ≤ o.openedIn → (o.handle, o.underlying) ∈ opened
  unlisted : ∀ o ∈ t.openHandles 0, o.openedIn < since → o.handle ∉ opened.map Prod.fst

theorem withCapacity_stamped (tag closedQueueMax capacity : Nat) :
    (withCapacity tag closedQueueMax capacity).Stamped 0 :=
  ⟨rfl, nofun⟩

/-- A new generation that does not wrap around. -/
theorem Stamped.newGeneration {n : Nat} (hs : t.Stamped n) (hlt : n + 1 < 2 ^ 64) :
    t.newGeneration.Stamped (n + 1) where
  leakGeneration_eq := by
    have := hs.leakGeneration_eq
    simp only [HandleTable.newGeneration, UInt64.toNat_add, UInt64.toNat_one]
    omega
  openedIn_le := fun o ho => Nat.le_succ_of_le (hs.openedIn_le o ho)

/-- At the start of a generation nothing was opened in it. -/
theorem Stamped.watched {n : Nat} (hs : t.Stamped n) (hlt : n + 1 < 2 ^ 64) :
    t.newGeneration.Watched t.newGeneration.leakGeneration [] where
  listed := fun o ho hle => by
    have hstamp := hs.openedIn_le o ho
    have hnow := (hs.newGeneration hlt).leakGeneration_eq
    rw [UInt64.le_iff_toNat_le] at hle
    omega
  unlisted := fun _ _ _ => List.not_mem_nil

section

variable {n : Nat} (ht : t.WellFormed) (hs : t.Stamped n)

include ht hs

private theorem Stamped.perform (op : TableOp) (hlt : n + generations [op] < 2 ^ 64) :
    (t.perform op).Stamped (n + generations [op]) := by
  by_cases hop : op = .newGeneration
  · subst hop
    exact hs.newGeneration hlt
  · rw [generations_of_ne hop, Nat.add_zero]
    refine ⟨by rw [(perform_stamps ht hop).1, hs.leakGeneration_eq], fun o ho => ?_⟩
    rcases mem_openHandles_perform ht ho with ho | ⟨-, hstamp⟩
    · exact hs.openedIn_le o ho
    · rw [hstamp, hs.leakGeneration_eq]

/-- No run stamps a handle with a generation to come. -/
theorem Stamped.run (ops : List TableOp) (hlt : n + generations ops < 2 ^ 64) :
    (t.run ops).Stamped (n + generations ops) := by
  induction ops generalizing t n with
  | nil => exact hs
  | cons op ops ih =>
    rw [generations_cons, ← Nat.add_assoc] at hlt ⊢
    exact ih (perform_wellFormed ht op) (hs.perform ht op (by omega)) hlt

private theorem Watched.perform {since : UInt64} {opened : List (Handle × Handle)}
    (hw : t.Watched since opened) (hsince : since.toNat ≤ n) (op : TableOp) :
    (t.perform op).Watched since (opened ++ t.issuedBy op) where
  listed := fun o ho hle => by
    rcases mem_openHandles_perform ht ho with ho | ⟨hissued, -⟩
    · exact List.mem_append_left _ (hw.listed o ho hle)
    · exact List.mem_append_right _ hissued
  unlisted := fun o ho hlt => by
    rcases mem_openHandles_perform ht ho with ho | ⟨-, hstamp⟩
    · rw [List.map_append, List.mem_append, not_or]
      refine ⟨hw.unlisted o ho hlt, fun hissued => ?_⟩
      -- What was issued now was not open before, but `o` was.
      obtain ⟨p, hp, heq⟩ := List.mem_map.mp hissued
      exact (issuedBy_fresh ht hp).2 (heq ▸ List.mem_map_of_mem ho)
    · -- A new handle has the stamp of the present generation, which is not before `since`.
      have hnow := hs.leakGeneration_eq
      rw [UInt64.lt_iff_toNat_lt, hstamp] at hlt
      omega

/-- What a run issues is opened in the generations it is watched from. -/
theorem Watched.run {since : UInt64} {opened : List (Handle × Handle)}
    (hw : t.Watched since opened) (hsince : since.toNat ≤ n) (ops : List TableOp)
    (hlt : n + generations ops < 2 ^ 64) :
    (t.run ops).Watched since (opened ++ t.issued ops) := by
  induction ops generalizing t n opened with
  | nil => rwa [issued, collect, List.append_nil]
  | cons op ops ih =>
    rw [generations_cons, ← Nat.add_assoc] at hlt
    have hrest := ih (perform_wellFormed ht op) (hs.perform ht op (by omega))
      (hw.perform ht hs hsince op) (Nat.le_add_right_of_le hsince) hlt
    rwa [List.append_assoc] at hrest

end

/-- A listing by generation has exactly those handles that were opened since and still resolve, with
what they resolve to. -/
theorem mem_openHandles_since_iff (ht : t.WellFormed) {since : UInt64}
    {opened : List (Handle × Handle)} (hw : t.Watched since opened)
    (hnull : ∀ p ∈ opened, p.1 ≠ .null) {h u : Handle} :
    (∃ o ∈ t.openHandles since, o.handle = h ∧ o.underlying = u) ↔
      h ∈ opened.map Prod.fst ∧ t.resolve h = .ok u := by
  constructor
  · rintro ⟨o, ho, rfl, rfl⟩
    obtain ⟨ho, hle⟩ := mem_openHandles_since.mp ho
    exact ⟨List.mem_map_of_mem (hw.listed o ho hle),
      (resolve_eq_ok_iff ht (handle_ne_null_of_mem ht ho)).mpr ⟨o, ho, rfl, rfl⟩⟩
  · rintro ⟨hmem, hres⟩
    obtain ⟨p, hp, rfl⟩ := List.mem_map.mp hmem
    obtain ⟨o, ho, hoh, rfl⟩ := (resolve_eq_ok_iff ht (hnull p hp)).mp hres
    refine ⟨o, mem_openHandles_since.mpr ⟨ho, ?_⟩, hoh, rfl⟩
    rw [UInt64.le_iff_toNat_le, ← Nat.not_lt, ← UInt64.lt_iff_toNat_lt]
    exact fun hlt => hw.unlisted o ho hlt (hoh ▸ hmem)

/-- A listing by generation is empty iff nothing that was opened since still resolves. -/
theorem openHandles_since_eq_nil_iff (ht : t.WellFormed) {since : UInt64}
    {opened : List (Handle × Handle)} (hw : t.Watched since opened)
    (hnull : ∀ p ∈ opened, p.1 ≠ .null) :
    t.openHandles since = [] ↔ ∀ h ∈ opened.map Prod.fst, ∀ u, t.resolve h ≠ .ok u := by
  rw [List.eq_nil_iff_forall_not_mem]
  constructor
  · intro hnone h hh u hres
    obtain ⟨o, ho, -⟩ := (mem_openHandles_since_iff ht hw hnull).mpr ⟨hh, hres⟩
    exact hnone o ho
  · intro hnone o ho
    obtain ⟨hh, hres⟩ := (mem_openHandles_since_iff ht hw hnull).mp ⟨o, ho, rfl, rfl⟩
    exact hnone o.handle hh o.underlying hres

end HandleGuard.HandleTable
