import HandleGuard.Proofs.Context.Ledger
import HandleGuard.Proofs.Store.Produced
import Mathlib.Data.List.Induction

/-!
# References, as a record of calls tells them

A store is used for a while, and its calls are on record with their answers. From the record alone
`leases` tells what each handle stands for: since the latest object was made for it, `dup` and `close`
succeeded so and so many times. A handle is used for one object after another, so a call counts for
the object that its handle stood for at the time.

* `Accounts.respond`            every call keeps a store in step with its record
* `accounts_run`                so every run does, as long as references are counted
* `reference_counting_correct`  what this says of the handles
-/

namespace HandleGuard

/-- What a record tells of a handle since the latest object was made for it: the value of the object,
and how many calls of `dup` and of `close` succeeded. -/
structure Lease where
  value : Int64
  dups : Nat
  closes : Nat
deriving DecidableEq, Repr

namespace Lease

/-- One more `dup`. -/
def dup (l : Lease) : Lease := { l with dups := l.dups + 1 }

/-- One more `close`. -/
def close (l : Lease) : Lease := { l with closes := l.closes + 1 }

/-- The references that are left. -/
def refs (l : Lease) : Nat := 1 + l.dups - l.closes

/-- The object, as long as there are references. -/
def object? (l : Lease) : Option StoredObject :=
  if l.closes < 1 + l.dups then some ⟨l.value, l.refs⟩ else none

theorem object?_eq_some_iff {l : Lease} {o : StoredObject} :
    l.object? = some o ↔ l.closes < 1 + l.dups ∧ ⟨l.value, l.refs⟩ = o := by
  rw [object?, Option.ite_none_right_eq_some, Option.some.injEq]

/-- A `dup` is one reference more, if there are not too many to be counted. -/
theorem object?_dup {l : Lease} (hlive : l.closes < 1 + l.dups)
    (hle : l.dup.refs ≤ ObjectStore.maxRefs) :
    l.dup.object? = some ⟨l.value, min (l.refs + 1) ObjectStore.maxRefs⟩ := by
  have hrefs : l.dup.refs = l.refs + 1 := by
    simp only [refs, dup]
    omega
  rw [hrefs] at hle
  rw [Nat.min_eq_left hle, object?_eq_some_iff, hrefs]
  exact ⟨by simp only [dup]; omega, rfl⟩

/-- A `close` is one reference less, and the last one ends the object. -/
theorem object?_close {l : Lease} (hlive : l.closes < 1 + l.dups) :
    l.close.object? = if l.refs ≤ 1 then none else some ⟨l.value, l.refs - 1⟩ := by
  have hrefs : l.close.refs = l.refs - 1 := by
    simp only [refs, close]
    omega
  have hlast : l.close.closes < 1 + l.close.dups ↔ ¬l.refs ≤ 1 := by
    simp only [refs, close]
    omega
  rw [object?, hrefs]
  by_cases hone : l.refs ≤ 1
  · rw [if_pos hone, if_neg (by rw [hlast]; exact not_not_intro hone)]
  · rw [if_neg hone, if_pos (hlast.mpr hone)]
    rfl

end Lease

namespace CallRecord

variable {ls : Handle → Option Lease} {r : Request} {h : Handle} {v : Int64}

/-- The values of the handles that are live by their leases. -/
def leasedValue? (leases : Handle → Option Lease) (h : Handle) : Option Int64 := do
  let l ← leases h
  if l.closes < 1 + l.dups then some l.value else none

/-- The leases after one more call. An object is made by a call that has a value for it and is
answered by a handle. -/
def lease (leases : Handle → Option Lease) (p : Request × Except CallError Reply) (k : Handle) :
    Option Lease :=
  match p with
  | (.dup h, .ok _) =>
    if k = h then (leases h).map Lease.dup else leases k
  | (.close h, .ok _) =>
    if k = h then (leases h).map Lease.close else leases k
  | (r, .ok (.handle h)) =>
    match r.made? (leasedValue? leases) with
    | some v => if k = h then some ⟨v, 0, 0⟩ else leases k
    | none => leases k
  | _ => leases k

/-- The leases that a record tells of, from its first call on. -/
def leases (calls : CallRecord) : Handle → Option Lease := calls.foldl lease fun _ => none

theorem leases_concat (calls : CallRecord) (p : Request × Except CallError Reply) :
    leases (calls ++ [p]) = lease (leases calls) p :=
  List.foldl_concat ..

theorem lease_dup {l : Lease} (hl : ls h = some l) (reply : Reply) :
    lease ls (.dup h, .ok reply) = fun k => if k = h then some l.dup else ls k := by
  funext k
  rw [lease, hl]
  rfl

theorem lease_close {l : Lease} (hl : ls h = some l) (reply : Reply) :
    lease ls (.close h, .ok reply) = fun k => if k = h then some l.close else ls k := by
  funext k
  rw [lease, hl]
  rfl

theorem lease_error (r : Request) (e : CallError) : lease ls (r, .error e) = ls := by
  funext k
  cases r <;> rfl

theorem lease_asInt (h : Handle) (a : Except CallError Reply) : lease ls (.asInt h, a) = ls := by
  funext k
  obtain e | ⟨_ | _ | _ | _⟩ := a <;> rfl

theorem lease_same (h k : Handle) (a : Except CallError Reply) : lease ls (.same h k, a) = ls := by
  funext k
  obtain e | ⟨_ | _ | _ | _⟩ := a <;> rfl

theorem lease_made (hv : r.made? (leasedValue? ls) = some v) :
    lease ls (r, .ok (.handle h)) = fun k => if k = h then some ⟨v, 0, 0⟩ else ls k := by
  funext k
  cases r with
  | fromInt w => cases hv; rfl
  | invoke op args => simp only [lease, hv]
  | _ => cases hv

/-- A call is at most one more `dup`. -/
theorem dups_lease {p : Request × Except CallError Reply} {k : Handle} {l : Lease}
    (hl : lease ls p k = some l) : l.dups = 0 ∨ ∃ l', ls k = some l' ∧ l.dups ≤ l'.dups + 1 := by
  have hsame : ls k = some l → ∃ l', ls k = some l' ∧ l.dups ≤ l'.dups + 1 :=
    fun hk => ⟨l, hk, Nat.le_succ _⟩
  unfold lease at hl
  split at hl
  · split at hl
    · rename_i hk
      obtain ⟨l', hl', rfl⟩ := Option.map_eq_some_iff.mp hl
      exact .inr ⟨l', hk ▸ hl', Nat.le_refl _⟩
    · exact .inr (hsame hl)
  · split at hl
    · rename_i hk
      obtain ⟨l', hl', rfl⟩ := Option.map_eq_some_iff.mp hl
      exact .inr ⟨l', hk ▸ hl', Nat.le_succ _⟩
    · exact .inr (hsame hl)
  · split at hl
    · split at hl
      · cases hl
        exact .inl rfl
      · exact .inr (hsame hl)
    · exact .inr (hsame hl)
  · exact .inr (hsame hl)

/-- A record tells of as many calls of `dup` as it has calls at most. -/
theorem dups_le_length {calls : CallRecord} {l : Lease} (hl : leases calls h = some l) :
    l.dups ≤ calls.length := by
  induction calls using List.reverseRecOn generalizing l with
  | nil => cases hl
  | append_singleton calls p ih =>
    rw [leases_concat] at hl
    rw [List.length_append, List.length_singleton]
    obtain hzero | ⟨l', hl', hle⟩ := dups_lease hl
    · omega
    · have hlength := ih hl'
      omega

end CallRecord

namespace ObjectStore

open CallRecord

variable {s s' : ObjectStore} {h : Handle} {calls : CallRecord}

/-- A store whose objects are those that the record of its calls tells of. -/
structure Accounts (calls : CallRecord) (s : ObjectStore) : Prop where
  wellFormed : s.WellFormed
  object? : ∀ h, s.object? h = (leases calls h).bind Lease.object?
  calls_eq : s.calls = calls.length

namespace Accounts

theorem empty : Accounts [] .empty where
  wellFormed := empty_wellFormed
  object? := by simp [leases]
  calls_eq := rfl

/-- The values are those of the live leases. -/
theorem value? (ha : Accounts calls s) : s.value? = leasedValue? (leases calls) := by
  funext h
  rw [ObjectStore.value?, ha.object?, leasedValue?]
  cases leases calls h with
  | none => rfl
  | some l =>
    show l.object?.map StoredObject.value = if l.closes < 1 + l.dups then some l.value else none
    rw [Lease.object?]
    split
    · rfl
    · rfl

theorem exists_lease (ha : Accounts calls s) {o : StoredObject} (ho : s.object? h = some o) :
    ∃ l, leases calls h = some l ∧ l.closes < 1 + l.dups ∧ ⟨l.value, l.refs⟩ = o := by
  rw [ha.object?] at ho
  obtain ⟨l, hl, hobject⟩ := Option.bind_eq_some_iff.mp ho
  exact ⟨l, hl, Lease.object?_eq_some_iff.mp hobject⟩

/-- A call that changes what one handle stands for, in the store as in the record. -/
theorem updates (ha : Accounts calls s) {p : Request × Except CallError Reply}
    {x : Option StoredObject} {l : Option Lease} (hu : s.Updates h x s')
    (hp : lease (leases calls) p = fun k => if k = h then l else leases calls k)
    (hx : x = l.bind Lease.object?) (hcalls : s'.calls = (calls ++ [p]).length) :
    Accounts (calls ++ [p]) s' where
  wellFormed := hu.wellFormed
  object? := by
    intro k
    rw [hu.object?, leases_concat, hp, ha.object?]
    by_cases hk : k = h
    · simp only [if_pos hk, hx]
    · simp only [if_neg hk]
  calls_eq := hcalls

/-- Every call keeps the store in step with its record, as long as its references are counted. -/
theorem respond (ha : Accounts calls s) (r : Request)
    (hbound : ∀ h l, leases (calls ++ [(r, (ObjectStore.respond r s).1)]) h = some l →
      l.refs ≤ maxRefs) :
    Accounts (calls ++ [(r, (ObjectStore.respond r s).1)]) (ObjectStore.respond r s).2 := by
  have hcalls : (ObjectStore.respond r s).2.calls =
      (calls ++ [(r, (ObjectStore.respond r s).1)]).length := by
    rw [calls_respond, ha.calls_eq, List.length_append, List.length_singleton]
  obtain ⟨h, o, s', rfl, ho, hres, hu⟩ | ⟨h, o, s', rfl, ho, hres, hu⟩ |
    ⟨v, h, s', hmade, hres, -, hu⟩ | ⟨a, hres, -, hkeeps⟩ := respond_cases ha.wellFormed r
  all_goals
    rw [hres] at hbound hcalls ⊢
  · obtain ⟨l, hl, hlive, rfl⟩ := ha.exists_lease ho
    have hlease := lease_dup hl (.handle h)
    have hle : l.dup.refs ≤ maxRefs := by
      refine hbound h l.dup ?_
      rw [leases_concat, hlease]
      exact if_pos rfl
    exact ha.updates hu hlease (Lease.object?_dup hlive hle).symm hcalls
  · obtain ⟨l, hl, hlive, rfl⟩ := ha.exists_lease ho
    exact ha.updates hu (lease_close hl .closed) (Lease.object?_close hlive).symm hcalls
  · exact ha.updates hu (lease_made (ha.value? ▸ hmade)) rfl hcalls
  · have hsame : leases (calls ++ [(r, a)]) = leases calls := by
      rw [leases_concat]
      obtain ⟨e, rfl⟩ | ⟨h, rfl⟩ | ⟨h, k, rfl⟩ := hkeeps
      · exact lease_error r e
      · exact lease_asInt h a
      · exact lease_same h k a
    exact ⟨ha.wellFormed.counted, by rw [hsame, object?_counted]; exact ha.object?, hcalls⟩

end Accounts

/-! ### Runs -/

/-- The store after some calls, with their record. -/
def run (calls : List Request) : ObjectStore × CallRecord :=
  calls.foldl (fun c r => (Universal.recorded respond r c).2) (empty, [])

theorem run_concat (calls : List Request) (r : Request) :
    run (calls ++ [r]) = ((respond r (run calls).1).2,
      (run calls).2 ++ [(r, (respond r (run calls).1).1)]) :=
  List.foldl_concat ..

/-- No object ever has more references than are counted. -/
def FewReferences (calls : List Request) : Prop :=
  ∀ past, past <+: calls → ∀ h l, leases (run past).2 h = some l → l.refs ≤ maxRefs

@[simp] theorem length_run (calls : List Request) : (run calls).2.length = calls.length := by
  induction calls using List.reverseRecOn with
  | nil => rfl
  | append_singleton calls r ih =>
    rw [run_concat, List.length_append, List.length_append, ih]
    rfl

/-- It takes many calls to make more references than are counted. -/
theorem fewReferences_of_length {calls : List Request} (hlength : calls.length < maxRefs) :
    FewReferences calls := by
  intro past hpast h l hl
  have hdups := dups_le_length hl
  have hle := hpast.length_le
  rw [length_run] at hdups
  rw [Lease.refs]
  omega

/-- Every run keeps the store in step with its record, as long as its references are counted. -/
theorem accounts_run {calls : List Request} (hfew : FewReferences calls) :
    Accounts (run calls).2 (run calls).1 := by
  induction calls using List.reverseRecOn with
  | nil => exact .empty
  | append_singleton calls r ih =>
    have ha := ih fun past hpast => hfew past (hpast.trans (List.prefix_append calls [r]))
    have hbound := hfew _ List.prefix_rfl
    rw [run_concat] at hbound ⊢
    exact ha.respond r hbound

/-! ### What the handles stand for -/

/-- A handle is live while there is an object for it. -/
def Live (s : ObjectStore) (h : Handle) : Prop := ∃ o, s.object? h = some o

theorem not_live_iff : ¬s.Live h ↔ s.object? h = none := by
  rw [Live, ← Option.isSome_iff_exists, Option.not_isSome_iff_eq_none]

/-- What a store that counts references promises, by the record of its calls. -/
structure CountsReferences (calls : CallRecord) (s : ObjectStore) : Prop where
  /-- A handle is live iff an object was made for it, and since the latest time fewer calls of `close`
  succeeded than one more than those of `dup`. -/
  live_iff : ∀ h, s.Live h ↔ ∃ l, leases calls h = some l ∧ l.closes < 1 + l.dups
  null : ¬s.Live .null
  /-- No two objects have the same handle. -/
  nodup : s.liveHandles.Nodup ∧ s.liveHandles.length = s.liveObjects ∧
    ∀ h, h ∈ s.liveHandles ↔ s.Live h
  asInt : ∀ h l, s.Live h → leases calls h = some l →
    (respond (.asInt h) s).1 = .ok (.value l.value)
  dup : ∀ h, s.Live h → (respond (.dup h) s).1 = .ok (.handle h)
  close : ∀ h, s.Live h → (respond (.close h) s).1 = .ok .closed
  /-- An object is made at the lowest address that is not live, if there is one. -/
  made : ∀ r v, r.made? (leasedValue? (leases calls)) = some v →
    (∃ h, (respond r s).1 = .ok (.handle h) ∧ s.Lowest h) ∨
    ((respond r s).1 = .error StoreError.noAddress.toCallError ∧ ∀ h : Handle, h ≠ .null → s.Live h)
  /-- With as many live operands as it takes, an operation makes an object. -/
  computed : ∀ op args, arity? op = some args.length → (∀ h ∈ args, s.Live h) →
    ∃ v, (Request.invoke op args).made? (leasedValue? (leases calls)) = some v
  /-- A handle that is not live is refused. -/
  refused : ∀ h, ¬s.Live h → ∀ r, r = .dup h ∨ r = .close h ∨ r = .asInt h →
    (respond r s).1 = .error (StoreError.noObject h).toCallError
  /-- So is the first operand that is not live. -/
  operand : ∀ op before h after, arity? op = some (before ++ h :: after).length →
    (∀ k ∈ before, s.Live k) → ¬s.Live h →
    (respond (.invoke op (before ++ h :: after)) s).1 =
      .error (StoreError.noObject h).toCallError
  failed : ∀ r e, (respond r s).1 = .error e → (respond r s).2.objects = s.objects
  counted : s.calls = calls.length ∧ ∀ r, (respond r s).2.calls = s.calls + 1

/-- A store in step with its record counts references. -/
theorem Accounts.countsReferences (ha : Accounts calls s) : CountsReferences calls s where
  live_iff := by
    intro h
    constructor
    · rintro ⟨o, ho⟩
      obtain ⟨l, hl, hlive, -⟩ := ha.exists_lease ho
      exact ⟨l, hl, hlive⟩
    · rintro ⟨l, hl, hlive⟩
      refine ⟨⟨l.value, l.refs⟩, ?_⟩
      rw [ha.object?, hl]
      exact Lease.object?_eq_some_iff.mpr ⟨hlive, rfl⟩
  null := not_live_iff.mpr (object?_null ha.wellFormed)
  nodup := ⟨nodup_liveHandles ha.wellFormed, (liveObjects_eq_length s).symm,
    fun _ => mem_liveHandles_iff ha.wellFormed⟩
  asInt := by
    rintro h l ⟨o, ho⟩ hl
    obtain ⟨l', hl', -, rfl⟩ := ha.exists_lease ho
    cases hl.symm.trans hl'
    rw [respond_asInt, value_eq, ho]
  dup := by
    rintro h ⟨o, ho⟩
    obtain ⟨s', hres, -⟩ := respond_dup ha.wellFormed ho
    rw [hres]
  close := by
    rintro h ⟨o, ho⟩
    obtain ⟨s', hres, -⟩ := respond_close ha.wellFormed ho
    rw [hres]
  made := by
    intro r v hmade
    rw [← ha.value?] at hmade
    obtain ⟨h, s', hres, hlow, -⟩ | ⟨hres, hfull⟩ := respond_made ha.wellFormed hmade
    · exact .inl ⟨h, by rw [hres], hlow⟩
    · exact .inr ⟨by rw [hres], hfull⟩
  computed := by
    intro op args harity hargs
    rw [← ha.value?]
    exact exists_made harity hargs
  refused := by
    intro h hlive r hr
    have hnone := not_live_iff.mp hlive
    obtain rfl | rfl | rfl := hr
    · rw [(respond_noObject hnone).1]
    · rw [(respond_noObject hnone).2]
    · rw [respond_asInt, value_eq, hnone]
  operand := by
    intro op before h after harity hbefore hlive
    rw [respond_invoke, compute_noObject harity hbefore (not_live_iff.mp hlive)]
  failed := by
    intro r e herror
    rw [respond_error ha.wellFormed herror]
    rfl
  counted := ⟨ha.calls_eq, fun r => calls_respond r s⟩

/-- The store counts references correctly: after every run in which no object ever has more of them
than are counted, the record of the run tells which handles are live and what they stand for, and the
next call is answered accordingly. -/
theorem reference_counting_correct {calls : List Request} (hfew : FewReferences calls) :
    CountsReferences (run calls).2 (run calls).1 :=
  (accounts_run hfew).countsReferences

/-- The first object is duplicated and given up, its address is used again for a sum, and the second
object is given up and refused as an operand. -/
theorem reference_counting_correct_reused :
    let h₁ : Handle := ⟨1⟩
    let h₂ : Handle := ⟨2⟩
    let calls : List Request := [.fromInt 5, .dup h₁, .fromInt 7, .close h₁, .close h₁,
      .invoke addOp [h₂, h₂], .close h₂, .invoke addOp [h₁, h₂]]
    FewReferences calls ∧ CountsReferences (run calls).2 (run calls).1 ∧
      leases (run calls).2 h₁ = some ⟨14, 0, 0⟩ ∧ leases (run calls).2 h₂ = some ⟨7, 0, 1⟩ ∧
      (run calls).2.getLast? =
        some (.invoke addOp [h₁, h₂], .error (StoreError.noObject h₂).toCallError) := by
  intro h₁ h₂ calls
  have hfew : FewReferences calls := fewReferences_of_length (by decide)
  exact ⟨hfew, reference_counting_correct hfew, by decide +kernel, by decide +kernel,
    by decide +kernel⟩

end ObjectStore

end HandleGuard
