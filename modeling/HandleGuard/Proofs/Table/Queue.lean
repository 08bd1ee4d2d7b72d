import HandleGuard.Proofs.Table.Growth

/-!
# The closed queue keeps the latest closes

`closedHandles` is read back from slots, and three operations take handles away from it: a close when
the queue is over its bound, a smaller bound, and an `openHandle` that finds no slot. All three take
the oldest ones, so at any time the listing is the latest part of what the run closed
(`closed_queue_latest`).

* `Relisted`, `perform_relisted`   the four things that an operation can do to the listing
* `run_closedHandles_suffix`       a run keeps a latest part of what was closed
* `run_closedHandles_latest`       it is as long as the bound allows while the table can grow
-/

namespace HandleGuard.HandleTable

variable {t : HandleTable} {h u : Handle}

/-- What an operation does to the listing of the closed handles, and to the bound of the queue. -/
inductive Relisted (t : HandleTable) (op : TableOp) (t' : HandleTable) : Prop
  /-- Nothing. -/
  | same (hclosed : t.closedBy op = []) (hlisting : t'.closedHandles = t.closedHandles)
    (hmax : t'.closedQueueMax = t.closedQueueMax)
  /-- A handle is closed and comes last. The oldest ones go when there are too many. -/
  | closed {h : Handle} (hclosed : t.closedBy op = [h])
    (hlisting : t'.closedHandles =
      (t.closedHandles ++ [h]).drop (t.closedHandles.length + 1 - t.closedQueueMax))
    (hmax : t'.closedQueueMax = t.closedQueueMax)
  /-- A new bound keeps the latest ones, as many as it allows. -/
  | bounded {max : Nat} (hop : op = .setClosedQueueMax max) (hclosed : t.closedBy op = [])
    (hlisting : t'.closedHandles = t.closedHandles.drop (t.closedHandles.length - max))
    (hmax : t'.closedQueueMax = max)
  /-- The oldest one is given up for a new handle. -/
  | reused (hissued : t.issuedBy op ≠ []) (hclosed : t.closedBy op = [])
    (hfull : t.slots.size = t.capacity) (hlisting : t'.closedHandles = t.closedHandles.tail)
    (hmax : t'.closedQueueMax = t.closedQueueMax)

theorem closedBy_close (hh : h ≠ .null) (hok : (t.close h).1 = .ok u) :
    t.closedBy (.close h) = [h] := by
  have hnull : ¬h.isNull = true := Handle.not_isNull hh
  simp only [closedBy, hok, hnull, Bool.false_eq_true, ↓reduceIte]

section

variable (ht : t.WellFormed)

include ht

theorem perform_capacity (op : TableOp) : (t.perform op).capacity = t.capacity :=
  (run_frame ht [op]).2

/-! ### Operations -/

theorem trim_closedQueueMax : t.trim.closedQueueMax = t.closedQueueMax := by
  obtain ⟨rs, htrim, -⟩ := trim_trace ht
  exact (htrim.dials (not_mem_map_retired rs)).1

/-- A new bound keeps the latest handles, as many as it allows. -/
theorem setClosedQueueMax_closedHandles (max : Nat) :
    (t.setClosedQueueMax max).closedHandles =
      t.closedHandles.drop (t.closedHandles.length - max) := by
  have hdial : Step t .dialled { t with closedQueueMax := max } := .dial max t.leakGeneration
  exact trim_closedHandles (hdial.wellFormed ht)

/-- A handle that is closed comes last, and the oldest ones go when there are too many. -/
theorem close_closedHandles (hh : h ≠ .null) (hok : (t.close h).1 = .ok u) :
    (t.close h).2.closedHandles =
      (t.closedHandles ++ [h]).drop (t.closedHandles.length + 1 - t.closedQueueMax) := by
  have hconcat : h :: t.closedHandles.reverse = (t.closedHandles ++ [h]).reverse := by simp
  have hremembers := close_remembers ht hh hok
  rw [hconcat, List.take_reverse, List.length_append, List.length_singleton] at hremembers
  exact List.reverse_injective hremembers

theorem close_relisted (h : Handle) : Relisted t (.close h) (t.close h).2 := by
  by_cases hh : h = .null
  · subst hh
    exact .same rfl rfl rfl
  · obtain ⟨_, -, hclose⟩ | ⟨_, _, -, -, hclose⟩ | ⟨i, e, t₁, -, -, hstep, -, hmax, hclose⟩ :=
      close_cases ht hh
    · exact .same (by rw [closedBy, hclose]) (by rw [hclose]) (by rw [hclose])
    · exact .same (by rw [closedBy, hclose]) (by rw [hclose]) (by rw [hclose])
    · have hok : (t.close h).1 = .ok e.underlying := by rw [hclose]
      refine .closed (closedBy_close hh hok) (close_closedHandles ht hh hok) ?_
      rw [hclose, ← hmax]
      exact trim_closedQueueMax (hstep.wellFormed ht)

theorem openHandle_relisted (u : Handle) : Relisted t (.openHandle u) (t.openHandle u).2 := by
  by_cases hu : u = .null
  · subst hu
    exact .same rfl rfl rfl
  · cases hok : (t.openHandle u).1 with
    | error e =>
      have hsame := openHandle_of_error ht hok
      exact .same rfl (by rw [hsame]) (by rw [hsame])
    | ok h =>
      obtain ⟨-, i, rs, t₁, hretire, hissue, hby⟩ := openHandle_performedBy ht hu hok
      have hmax : (t.openHandle u).2.closedQueueMax = t.closedQueueMax :=
        (hissue.dials (by simp)).1.trans (hretire.dials (not_mem_map_retired rs)).1
      have hlisting := openHandle_closedHandles ht hu hok
      by_cases hgiven : t.closedHandles ≠ [] ∧ t.free = [] ∧ t.slots.size = t.capacity
      · rw [if_pos hgiven] at hlisting
        refine .reused ?_ rfl hgiven.2.2 hlisting hmax
        rw [hby.issued]
        simp [TableEvent.issued?]
      · rw [if_neg hgiven] at hlisting
        exact .same rfl hlisting hmax

theorem setClosedQueueMax_relisted (max : Nat) :
    Relisted t (.setClosedQueueMax max) (t.setClosedQueueMax max) := by
  have hdial : Step t .dialled { t with closedQueueMax := max } := .dial max t.leakGeneration
  exact .bounded rfl rfl (setClosedQueueMax_closedHandles ht max)
    (trim_closedQueueMax (hdial.wellFormed ht))

/-- Every operation does one of four things to the listing. -/
theorem perform_relisted (op : TableOp) : Relisted t op (t.perform op) := by
  cases op with
  | openHandle u => exact openHandle_relisted ht u
  | resolve h => exact .same rfl rfl rfl
  | close h => exact close_relisted ht h
  | setClosedQueueMax max => exact setClosedQueueMax_relisted ht max
  | newGeneration => exact .same rfl rfl rfl

/-- An operation that neither issues nor closes a handle, nor sets the bound, leaves the listing
alone. -/
theorem perform_closedHandles_of_idle {op : TableOp} (hclosed : t.closedBy op = [])
    (hissued : t.issuedBy op = []) (hbound : ∀ max, op ≠ .setClosedQueueMax max) :
    (t.perform op).closedHandles = t.closedHandles := by
  cases perform_relisted ht op with
  | same _ hlisting => exact hlisting
  | closed hone =>
    rw [hclosed] at hone
    cases hone
  | bounded hop => exact absurd hop (hbound _)
  | reused hsome => exact absurd hissued hsome

/-- What an operation leaves of the listing is its latest part, with what it closed at the end. -/
theorem perform_closedHandles_suffix (op : TableOp) :
    (t.perform op).closedHandles <:+ t.closedHandles ++ t.closedBy op := by
  cases perform_relisted ht op with
  | same hclosed hlisting =>
    exact ⟨[], by rw [hclosed, hlisting, List.append_nil, List.nil_append]⟩
  | closed hclosed hlisting =>
    rw [hclosed, hlisting]
    exact List.drop_suffix _ _
  | bounded _ hclosed hlisting =>
    rw [hclosed, hlisting, List.append_nil]
    exact List.drop_suffix _ _
  | reused _ hclosed _ hlisting =>
    rw [hclosed, hlisting, List.append_nil]
    exact List.tail_suffix _

section

variable {op : TableOp} (hmax : ∀ max, op = .setClosedQueueMax max → max = t.closedQueueMax)

include hmax

theorem perform_closedQueueMax : (t.perform op).closedQueueMax = t.closedQueueMax := by
  cases perform_relisted ht op with
  | bounded hop _ _ hbound => exact hbound.trans (hmax _ hop)
  | _ => assumption

/-- While the table can grow and the bound stays, an operation leaves as much of the listing as the
bound allows. -/
theorem perform_closedHandles_latest (hle : t.closedHandles.length ≤ t.closedQueueMax)
    (hroom : t.slots.size < t.capacity) :
    (t.perform op).closedHandles = (t.closedHandles ++ t.closedBy op).drop
      ((t.closedHandles ++ t.closedBy op).length - t.closedQueueMax) := by
  cases perform_relisted ht op with
  | same hclosed hlisting =>
    rw [hclosed, hlisting, List.append_nil, Nat.sub_eq_zero_of_le hle, List.drop_zero]
  | closed hclosed hlisting =>
    rw [hclosed, hlisting, List.length_append, List.length_singleton]
  | bounded hop hclosed hlisting => rw [hclosed, hlisting, List.append_nil, hmax _ hop]
  | reused _ _ hfull => omega

end

/-! ### Runs -/

/-- What a run leaves of the listing is its latest part, with what the run closed at the end. -/
theorem run_closedHandles_suffix (ops : List TableOp) :
    (t.run ops).closedHandles <:+ t.closedHandles ++ t.closedIn ops := by
  -- What was closed before an operation comes before what it closes, also in what was given up.
  induction ops generalizing t with
  | nil => exact (List.append_nil _).symm ▸ List.suffix_rfl
  | cons op ops ih =>
    obtain ⟨older, hop⟩ := perform_closedHandles_suffix ht op
    obtain ⟨older', hops⟩ := ih (perform_wellFormed ht op)
    refine ⟨older ++ older', ?_⟩
    show older ++ older' ++ (t.run (op :: ops)).closedHandles =
      t.closedHandles ++ (t.closedBy op ++ (t.perform op).closedIn ops)
    rw [← List.append_assoc t.closedHandles, ← hop, List.append_assoc, List.append_assoc, ← hops,
      run_cons]

/-- While the table can grow and the bound stays, a run leaves as much of the listing as the bound
allows. -/
theorem run_closedHandles_latest {ops : List TableOp}
    (hmax : ∀ max, .setClosedQueueMax max ∈ ops → max = t.closedQueueMax)
    (hle : t.closedHandles.length ≤ t.closedQueueMax) (hroom : (t.run ops).slots.size < t.capacity) :
    (t.run ops).closedHandles = (t.closedHandles ++ t.closedIn ops).drop
      ((t.closedHandles ++ t.closedIn ops).length - t.closedQueueMax) := by
  induction ops generalizing t with
  | nil =>
    show t.closedHandles =
      (t.closedHandles ++ []).drop ((t.closedHandles ++ []).length - t.closedQueueMax)
    rw [List.append_nil, Nat.sub_eq_zero_of_le hle, List.drop_zero]
  | cons op ops ih =>
    have ht' := perform_wellFormed ht op
    -- The table can grow now as no slot is ever taken back.
    have hsize := run_size_le ht (op :: ops)
    have hop : ∀ max, op = .setClosedQueueMax max → max = t.closedQueueMax := by
      intro max heq
      exact hmax max (heq ▸ List.mem_cons_self)
    have hmax' := perform_closedQueueMax ht hop
    have hlisting := perform_closedHandles_latest ht hop hle (by omega)
    have hrest : ((t.perform op).run ops).closedHandles =
        ((t.perform op).closedHandles ++ (t.perform op).closedIn ops).drop
          (((t.perform op).closedHandles ++ (t.perform op).closedIn ops).length -
            (t.perform op).closedQueueMax) := by
      apply ih ht'
      · intro max hmem
        rw [hmax']
        exact hmax max (List.mem_cons_of_mem op hmem)
      · rw [hlisting, List.length_drop, hmax']
        omega
      · rw [perform_capacity ht op]
        exact hroom
    show ((t.perform op).run ops).closedHandles =
      (t.closedHandles ++ (t.closedBy op ++ (t.perform op).closedIn ops)).drop
        ((t.closedHandles ++ (t.closedBy op ++ (t.perform op).closedIn ops)).length -
          t.closedQueueMax)
    rw [hrest, hlisting, hmax', List.drop_length_sub_append, List.append_assoc]

end

/-- The closed queue remembers the most recent closes. In every state that operations can reach, the
listing is the latest part of the handles that were closed so far. A close adds to it and a smaller
bound shortens it, each to the bound at most; issuing a handle takes the oldest one away where no
slot is free and the table cannot grow; and all else leaves it alone. So as long as the bound is
constant and the table can grow, the listing has as many of the latest closes as the bound allows. -/
theorem closed_queue_latest (tag closedQueueMax capacity : Nat) (ops : List TableOp) :
    let start := withCapacity tag closedQueueMax capacity
    let t := start.run ops
    let closes := start.closedIn ops
    t.closedHandles <:+ closes ∧
    (∀ h u, h ≠ .null → (t.close h).1 = .ok u →
      (t.close h).2.closedHandles.length = min (t.closedHandles.length + 1) t.closedQueueMax) ∧
    (∀ max, (t.setClosedQueueMax max).closedHandles.length = min t.closedHandles.length max) ∧
    (∀ h u, u ≠ .null → (t.openHandle u).1 = .ok h →
      (t.openHandle u).2.closedHandles =
        if t.closedHandles ≠ [] ∧ t.free = [] ∧ t.slots.size = t.capacity then
          t.closedHandles.tail
        else t.closedHandles) ∧
    (∀ op, t.closedBy op = [] → t.issuedBy op = [] → (∀ max, op ≠ .setClosedQueueMax max) →
      (t.perform op).closedHandles = t.closedHandles) ∧
    ((∀ max, .setClosedQueueMax max ∈ ops → max = closedQueueMax) → t.slots.size < t.capacity →
      t.closedHandles = closes.drop (closes.length - closedQueueMax)) := by
  intro start t closes
  have hstart : start.WellFormed := withCapacity_wellFormed tag closedQueueMax capacity
  have ht : t.WellFormed := run_wellFormed hstart ops
  refine ⟨run_closedHandles_suffix hstart ops, ?_, ?_, ?_, ?_, ?_⟩
  · intro h u hh hok
    rw [close_closedHandles ht hh hok, List.length_drop, List.length_append, List.length_singleton]
    omega
  · intro max
    rw [setClosedQueueMax_closedHandles ht, List.length_drop]
    omega
  · intro h u hu hok
    exact openHandle_closedHandles ht hu hok
  · intro op hclosed hissued hbound
    exact perform_closedHandles_of_idle ht hclosed hissued hbound
  · intro hmax hroom
    have hcapacity : t.capacity = start.capacity := (run_frame hstart ops).2
    exact run_closedHandles_latest hstart hmax (Nat.zero_le _) (hcapacity ▸ hroom)

/-- The bound is one, so that of two closes the latest is remembered. In a table with one slot it is
given up for the next handle. -/
theorem closed_queue_latest_one :
    let first : Handle := ⟨0x30000001⟩
    let second : Handle := ⟨0x30000002⟩
    let ops : List TableOp := [.openHandle ⟨7⟩, .openHandle ⟨8⟩, .close first, .close second]
    let t := (withCapacity 3 1 3).run ops
    let full := (withCapacity 3 1 1).run [.openHandle ⟨7⟩, .close first]
    t.closedHandles = [second] ∧ (t.perform (.close second)).closedHandles = [second] ∧
      (t.perform (.openHandle ⟨9⟩)).closedHandles = [second] ∧
      (full.openHandle ⟨9⟩).2.closedHandles = [] ∧
      ((full.openHandle ⟨9⟩).2.close ⟨0x1030000001⟩).2.closedHandles.length = 1 := by
  intro first second ops t full
  obtain ⟨-, -, -, hopen, hidle, hlatest⟩ := closed_queue_latest 3 1 3 ops
  have hlisting : t.closedHandles = [second] := by
    rw [hlatest (by simp [ops]) (by decide +kernel)]
    decide +kernel
  refine ⟨hlisting, ?_, ?_, ?_, ?_⟩
  · rw [← hlisting]
    exact hidle (.close second) (by decide +kernel) (by decide +kernel) (by simp)
  · rw [← hlisting]
    exact (hopen ⟨0x1030000001⟩ ⟨9⟩ (by decide) (by decide +kernel)).trans (by decide +kernel)
  · obtain ⟨-, -, -, hfull, -⟩ := closed_queue_latest 3 1 1 [.openHandle ⟨7⟩, .close first]
    exact (hfull ⟨0x1030000001⟩ ⟨9⟩ (by decide) (by decide +kernel)).trans (by decide +kernel)
  · obtain ⟨-, hclose, -⟩ :=
      closed_queue_latest 3 1 1 [.openHandle ⟨7⟩, .close first, .openHandle ⟨9⟩]
    exact (hclose ⟨0x1030000001⟩ ⟨9⟩ (by decide) (by decide +kernel)).trans (by decide +kernel)

end HandleGuard.HandleTable
