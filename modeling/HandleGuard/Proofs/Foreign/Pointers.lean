import HandleGuard.Proofs.Foreign.Recorded

/-!
# Which pointers lead to a debug context

The table of a host looks like a debug table, down to the version of its layout, and its private
part belongs to the host. A copy of a debug table looks even more like one. So what a table holds is
not what tells: a debug context is only looked for behind the tables that were filled for one, which
are those that `initTable` filled and `bind` handed out. Any other pointer is turned away, and
nothing comes of it but a note.

Besides making calls, callers may write to the memory of any table. What a debug table holds is then
up to them; which tables are debug tables is not.

* `CallerStep.givenIn`, `CallerStep.writesIn`   what was filled or handed out, and who wrote what
* `Surface.Backed.apply`           one call
* `CallerStep.Tracked.run`         any run of calls and writes
* `Surface.no_context_confusion`   which pointers are accepted, where they lead, and what becomes of
  others
-/

namespace HandleGuard.Foreign.Surface

variable {s s' : Surface} {t : TableRef} {p : Pointer}

/-- There is a debug context behind table `t`. -/
def IsDebug (s : Surface) (t : TableRef) : Prop := (s.guard? (some t)).isSome

theorem isDebug_iff : s.IsDebug t ↔ ∃ i, s.guard? (some t) = some i := Option.isSome_iff_exists

theorem isDebug_of_guard? {i : Nat} (h : s.guard? (some t) = some i) : s.IsDebug t :=
  isDebug_iff.mpr ⟨i, h⟩

/-- Version and private part of a table are asked for when it is known to be a debug table. -/
theorem isDebug_iff_mem : s.IsDebug t ↔ t ∈ s.debugTables ∧
    ∃ table, s.tables[t]? = some table ∧ table.isCurrent = true ∧ table.backing ≠ .nothing := by
  have hstate (table : OpTable) : (∃ i, table.state? = some i) ↔
      table.isCurrent = true ∧ table.backing ≠ .nothing := by
    rw [OpTable.state?]
    cases table.isCurrent <;> cases table.backing <;> simp [Backing.state?]
  rw [isDebug_iff]
  constructor
  · rintro ⟨i, hi⟩
    obtain ⟨ht, table, htable, hi⟩ := guard?_eq_some_iff.mp hi
    exact ⟨ht, table, htable, (hstate table).mp ⟨i, hi⟩⟩
  · rintro ⟨ht, table, htable, hread⟩
    obtain ⟨i, hi⟩ := (hstate table).mpr hread
    exact ⟨i, guard?_eq_some_iff.mpr ⟨ht, table, htable, hi⟩⟩

theorem SameTables.isDebug_iff (h : SameTables s s') : s'.IsDebug t ↔ s.IsDebug t := by
  rw [IsDebug, IsDebug, h.guard?_eq]

/-! ### What callers do -/

/-- A write to the memory of a table, with the debug context that the table was filled for. What a
caller writes itself is for none. -/
abbrev Write := TableRef × Option Nat

namespace ProcessCall

/-- The table that a call fills, in memory that there is, and the debug context that it is filled
for. -/
def filled (s : Surface) : ProcessCall → Option (TableRef × Nat)
  | binding (.bind u) =>
    match (s.bind u).1 with
    | some t => if t < s.tables.size then none else some (t, s.guards.size)
    | none => none
  | binding (.initTable (some t) u) =>
    match (s.initTable (some t) u).1 with
    | .done => if t < s.tables.size then some (t, s.guards.size) else none
    | .refused => none
  | _ => none

/-- The table that a call hands out or fills. -/
def given (s : Surface) : ProcessCall → Pointer
  | binding (.bind u) => (s.bind u).1
  | c => (c.filled s).map Prod.fst

end ProcessCall

/-- What a caller does. -/
inductive CallerStep where
  | call (c : ProcessCall)
  /-- The memory of table `t` is overwritten, perhaps with a copy of another table. -/
  | overwrite (t : TableRef) (table : OpTable)

namespace CallerStep

def apply (s : Surface) : CallerStep → Surface
  | call c => c.apply s
  | overwrite t table => s.modifyTable t fun _ => table

/-- The state after a step, which is not made any more once the process has stopped. -/
def step (s : Surface) (c : CallerStep) : Surface := if s.stopped.isSome then s else c.apply s

/-- The state after some steps. -/
def run (s : Surface) (steps : List CallerStep) : Surface := steps.foldl step s

/-- The table that a step hands out or fills. -/
def given (s : Surface) : CallerStep → Pointer
  | call c => c.given s
  | overwrite .. => none

/-- What a step writes to the memory of a table. -/
def write (s : Surface) : CallerStep → Option Write
  | call c => (c.filled s).map (Prod.map id some)
  | overwrite t _ => if t < s.tables.size then some (t, none) else none

/-- The tables that were filled or handed out during some steps. -/
def givenIn (s : Surface) : List CallerStep → List TableRef
  | [] => []
  | c :: steps => (if s.stopped.isSome then none else c.given s).toList ++ givenIn (c.step s) steps

/-- All that was written to the memory of tables during some steps, latest first. -/
def writesIn (s : Surface) : List CallerStep → List Write
  | [] => []
  | c :: steps => writesIn (c.step s) steps ++ (if s.stopped.isSome then none else c.write s).toList

end CallerStep

/-! ### Debug tables -/

/-- What is known to be a debug table is a table, and whatever is handed out is known to be one. -/
structure Backed (s : Surface) : Prop where
  lt : ∀ {t : TableRef}, t ∈ s.debugTables → t < s.tables.size
  handed : ∀ {i : Nat} {g : Guard} {t : TableRef}, s.guards[i]? = some g → g.table = some t →
    t ∈ s.debugTables

/-- The step from `s` to `s'` writes `w` to the memory of a table and nothing else. A table that it
fills is a debug table from then on and leads to a context; no other table becomes one, and none
stops being one. -/
structure Writes (w : Option Write) (s s' : Surface) : Prop where
  backed : s'.Backed
  guards : s.guards.size ≤ s'.guards.size
  known_iff : ∀ {t : TableRef}, t ∈ s'.debugTables ↔ t ∈ s.debugTables ∨ ∃ i, w = some (t, some i)
  rest : ∀ {t : TableRef}, t < s.tables.size → w.map Prod.fst ≠ some t →
    s'.tables[t]? = s.tables[t]?
  leads : ∀ {t : TableRef} {i : Nat}, w = some (t, some i) →
    s'.guard? (some t) = some i ∧ i < s'.guards.size

namespace Backed

variable (h : s.Backed)

include h

/-- The tables stay as they are, and only debug tables are handed out. -/
theorem same (htables : SameTables s s') (hguards : s.guards.size ≤ s'.guards.size)
    (hhanded : ∀ {j : Nat} {g : Guard} {t : TableRef}, s'.guards[j]? = some g → g.table = some t →
      t ∈ s.debugTables) : Writes none s s' where
  backed := by
    refine ⟨fun ht => ?_, fun hg ht => ?_⟩
    · rw [htables.tables]
      exact h.lt (htables.debugTables ▸ ht)
    · rw [htables.debugTables]
      exact hhanded hg ht
  guards := hguards
  known_iff := by simp [htables.debugTables]
  rest _ _ := by rw [htables.tables]
  leads hw := by cases hw

theorem of_guards_eq (htables : SameTables s s') (hguards : s'.guards = s.guards) :
    Writes none s s' :=
  h.same htables (Nat.le_of_eq (congrArg Array.size hguards.symm)) fun hg => h.handed (hguards ▸ hg)

/-- A new table that is no debug table. -/
theorem addTable {table : OpTable} (htables : s'.tables = s.tables.push table)
    (hdebug : s'.debugTables = s.debugTables) (hguards : s'.guards = s.guards) :
    Writes none s s' where
  backed := by
    refine ⟨fun ht => ?_, fun hg ht => ?_⟩
    · rw [htables, Array.size_push]
      exact Nat.lt_succ_of_lt (h.lt (hdebug ▸ ht))
    · rw [hdebug]
      exact h.handed (hguards ▸ hg) ht
  guards := Nat.le_of_eq (congrArg Array.size hguards.symm)
  known_iff := by simp [hdebug]
  rest hlt _ := by rw [htables, Array.getElem?_push, if_neg (Nat.ne_of_lt hlt)]
  leads hw := by cases hw

theorem failBinding (e : DebugError) : Writes none s (s.failBinding e) :=
  h.of_guards_eq (untouched_failBinding s e).2.2 (untouched_failBinding s e).2.1

/-- A change of a context that is handed out under the same table afterwards, or under another debug
table. -/
theorem modifyGuard {i : Nat} {f : Guard → Guard}
    (hf : ∀ g t, (f g).table = some t → g.table = some t ∨ t ∈ s.debugTables) :
    Writes none s (s.modifyGuard i f) := by
  refine h.same ⟨rfl, rfl⟩ (Nat.le_of_eq Array.size_modify.symm) fun {j g t} hg ht => ?_
  rw [Surface.modifyGuard, Array.getElem?_modify] at hg
  split at hg
  · obtain ⟨g₀, hg₀, rfl⟩ := Option.map_eq_some_iff.mp hg
    exact (hf g₀ t ht).elim (h.handed hg₀) id
  · exact h.handed hg ht

/-- A table is filled for a new context, which is handed out under it if at all. -/
theorem fills {g : Guard} (hguards : s'.guards = s.guards.push g)
    (hg : ∀ {t'}, g.table = some t' → t' = t) (hsize : s.tables.size ≤ s'.tables.size)
    (hknown : ∀ {t'}, t' ∈ s'.debugTables ↔ t' = t ∨ t' ∈ s.debugTables)
    (hrest : ∀ {t'}, t' < s.tables.size → t' ≠ t → s'.tables[t']? = s.tables[t']?)
    (hleads : s'.guard? (some t) = some s.guards.size) :
    Writes (some (t, some s.guards.size)) s s' where
  backed := by
    refine ⟨fun ht => ?_, fun {j g' t'} hg' ht' => ?_⟩
    · rcases hknown.mp ht with rfl | ht
      · exact lt_of_guard? hleads
      · exact Nat.lt_of_lt_of_le (h.lt ht) hsize
    · rw [hguards, Array.getElem?_push] at hg'
      split at hg'
      · cases hg'
        exact hknown.mpr (.inl (hg ht'))
      · exact hknown.mpr (.inr (h.handed hg' ht'))
  guards := by simp [hguards]
  known_iff {t'} := by
    rw [hknown, or_comm]
    simp [eq_comm]
  rest hlt hne := hrest hlt fun heq => hne (heq ▸ rfl)
  leads hw := by
    cases hw
    exact ⟨hleads, by simp [hguards]⟩

/-- What `bind` answers is a debug table: it was one before, or it is new and filled now. -/
theorem bind_cases (u : Pointer) :
    ((∀ {t}, (s.bind u).1 = some t → t ∈ s.debugTables) ∧ Writes none s (s.bind u).2) ∨
    ((s.bind u).1 = some s.tables.size ∧
      Writes (some (s.tables.size, some s.guards.size)) s (s.bind u).2) := by
  cases huniversal : s.universal? u with
  | none =>
    simp only [Surface.bind, huniversal]
    exact .inl ⟨by simp, h.of_guards_eq ⟨rfl, rfl⟩ rfl⟩
  | some served =>
    obtain ⟨u, name⟩ := served
    obtain ⟨rfl, hu⟩ := usable_of_universal? huniversal
    cases hadmission : s.registry.admission u with
    | bound i =>
      simp only [Surface.bind, huniversal, hadmission]
      refine .inl ⟨fun ht => ?_, h.of_guards_eq ⟨rfl, rfl⟩ rfl⟩
      obtain ⟨g, hg, htable⟩ := Option.bind_eq_some_iff.mp ht
      exact h.handed hg htable
    | refused bound =>
      simp only [Surface.bind, huniversal, hadmission]
      exact .inl ⟨by simp, h.failBinding _⟩
    | free =>
      rw [bind_of_free huniversal hadmission]
      refine .inr ⟨rfl, h.fills rfl ?_ ?_ List.mem_insert_iff ?_ ?_⟩
      · rintro t' ⟨⟩
        rfl
      · simp [addDebugTable]
      · intro t' hlt _
        simp only [addDebugTable]
        rw [Array.getElem?_push, if_neg (Nat.ne_of_lt hlt)]
      · exact guard?_addDebugTable_iff.mpr (.inl ⟨rfl, rfl⟩)

theorem bind (u : Pointer) :
    Writes (CallerStep.write s (.call (.binding (.bind u)))) s (s.bind u).2 := by
  simp only [CallerStep.write, ProcessCall.filled]
  obtain ⟨hmem, hwrites⟩ | ⟨hbind, hwrites⟩ := h.bind_cases u
  · cases ht : (s.bind u).1 with
    | none => exact hwrites
    | some t =>
      dsimp only
      rw [if_pos (h.lt (hmem ht))]
      exact hwrites
  · rw [hbind]
    dsimp only
    rw [if_neg (Nat.lt_irrefl _)]
    exact hwrites

theorem known_of_bind (u : Pointer) :
    t ∈ (s.bind u).2.debugTables ↔ t ∈ s.debugTables ∨ (s.bind u).1 = some t := by
  obtain ⟨hmem, hwrites⟩ | ⟨hbind, hwrites⟩ := h.bind_cases u
  · rw [hwrites.known_iff, or_iff_left_of_imp hmem]
    simp
  · rw [hwrites.known_iff, hbind]
    simp

theorem initTable (p u : Pointer) :
    Writes (CallerStep.write s (.call (.binding (.initTable p u)))) s (s.initTable p u).2 := by
  have hrefused : Writes none s s.badTable := h.of_guards_eq ⟨rfl, rfl⟩ rfl
  cases p with
  | none => exact hrefused
  | some t =>
    cases huniversal : s.universal? u with
    | none =>
      have hinit : s.initTable (some t) u = (.refused, s.badTable) := by
        simp only [Surface.initTable, huniversal]
      simp only [CallerStep.write, ProcessCall.filled, hinit]
      exact hrefused
    | some served =>
      obtain ⟨u, name⟩ := served
      obtain ⟨rfl, hu⟩ := usable_of_universal? huniversal
      simp only [CallerStep.write, ProcessCall.filled, initTable_eq huniversal]
      by_cases hlt : t < s.tables.size
      · rw [if_pos hlt]
        refine h.fills rfl ?_ ?_ ?_ ?_ ?_
        · rintro t' ⟨⟩
        · simp [fill, modifyTable]
        · simp [fill, hlt]
        · intro t' _ hne
          have hne' : t ≠ t' := Ne.symm hne
          simp only [fill, modifyTable, Array.getElem?_modify, if_neg hne']
        · exact guard?_fill_iff.mpr (.inl ⟨rfl, hlt, rfl⟩)
      · -- There is no memory to fill.
        rw [if_neg hlt, fill_of_le (Nat.le_of_not_lt hlt)]
        refine h.same ⟨rfl, rfl⟩ (by simp) fun hg ht => ?_
        rw [Array.getElem?_push] at hg
        split at hg
        · cases hg
          cases ht
        · exact h.handed hg ht

/-- Only a debug table is put in service. -/
theorem install (p : Pointer) : Writes none s (s.install p).2 := by
  have hdone {t : TableRef} {i : Nat} (hi : s.guard? (some t) = some i)
      (registry : Registry TableRef) : Writes none s ({ s with registry }.handOut t i) := by
    have hmodify : Writes none s (s.handOut t i) := h.modifyGuard fun g t' ht' => by
      cases ht'
      exact .inr (guard?_eq_some_iff.mp hi).1
    exact ⟨⟨hmodify.backed.lt, hmodify.backed.handed⟩, hmodify.guards, hmodify.known_iff,
      hmodify.rest, hmodify.leads⟩
  cases p with
  | none => exact h.of_guards_eq ⟨rfl, rfl⟩ rfl
  | some t =>
    cases hi : s.guard? (some t) with
    | none =>
      simp only [Surface.install, hi]
      exact h.of_guards_eq ⟨rfl, rfl⟩ rfl
    | some i =>
      simp only [Surface.install, hi]
      split
      · split
        · exact hdone hi s.registry
        · exact h.failBinding _
      · exact h.failBinding _
      · exact hdone hi (s.registry.insert _ i)

theorem overwrite (t : TableRef) (table : OpTable) :
    Writes (CallerStep.write s (.overwrite t table)) s (s.modifyTable t fun _ => table) := by
  have hfilled (i : Nat) (t' : TableRef) :
      CallerStep.write s (.overwrite t table) ≠ some (t', some i) := by
    rw [CallerStep.write]
    split <;> simp
  refine ⟨⟨fun ht => ?_, h.handed⟩, Nat.le_refl _, ?_, fun {t'} hlt hne => ?_, fun hw => ?_⟩
  · rw [modifyTable, Array.size_modify]
    exact h.lt ht
  · simp [hfilled, modifyTable]
  · have hne' : t ≠ t' := by
      rintro rfl
      simp [CallerStep.write, hlt] at hne
    rw [modifyTable, Array.getElem?_modify, if_neg hne']
  · exact absurd hw (hfilled _ _)

theorem update {α : Type} (i : Nat) (f : DebugContext → α × DebugContext) :
    Writes none s ((context i).update f s).2 := by
  have hsize : ((context i).update f s).2.guards.size = s.guards.size := Array.size_setIfInBounds
  refine h.same ⟨rfl, rfl⟩ (Nat.le_of_eq hsize.symm) fun {j g' t} hg' ht => ?_
  rw [getElem?_guards_update] at hg'
  obtain ⟨g, hg, rfl⟩ := Option.map_eq_some_iff.mp hg'
  refine h.handed hg (Eq.trans ?_ ht)
  split <;> rfl

end Backed

/-- What is kept of a state by calls on tables and debug contexts, beside its tables. -/
theorem stable_backed (n : Nat) :
    Recorded.Stable fun w => w.surface.Backed ∧ n ≤ w.surface.guards.size where
  update i f _ h := by
    have hupdate := h.1.update i f
    exact ⟨hupdate.backed, Nat.le_trans h.2 hupdate.guards⟩
  hosts _ h := ⟨⟨h.1.lt, h.1.handed⟩, h.2⟩
  endless h := ⟨⟨h.1.lt, h.1.handed⟩, h.2⟩
  badTable {w} h := by
    rw [Recorded.badTable_surface]
    exact ⟨⟨h.1.lt, h.1.handed⟩, h.2⟩
  done _ h := by rwa [Recorded.note_surface]
  failed {w p i} e _ h := by
    obtain ⟨stopped, hfail⟩ := failCall_eq w.surface i e
    have hnoted := h.1.modifyGuard (i := i) (f := ({ · with lastError := some (.ofCallError e) }))
      fun _ _ => .inl
    rw [Recorded.failCall_surface, hfail]
    exact ⟨⟨hnoted.backed.lt, hnoted.backed.handed⟩, Nat.le_trans h.2 hnoted.guards⟩

/-- A call on a table or a debug context leaves all tables alone. -/
theorem Writes.of_records {w : Recorded}
    (h : Recorded.Records (fun w => w.surface.Backed ∧ s.guards.size ≤ w.surface.guards.size) s s' w) :
    Writes none s s' where
  backed := h.surface ▸ h.holds.1
  guards := h.surface ▸ h.holds.2
  known_iff := by simp [h.tables.debugTables]
  rest _ _ := by rw [h.tables.tables]
  leads hw := by cases hw

/-- What one step writes. -/
theorem Backed.apply (h : s.Backed) (c : CallerStep) : Writes (c.write s) s (c.apply s) := by
  have hrecords : Recorded.Records
      (fun w => w.surface.Backed ∧ s.guards.size ≤ w.surface.guards.size) s s ⟨s, []⟩ :=
    ⟨rfl, ⟨rfl, rfl⟩, h, Nat.le_refl _⟩
  cases c with
  | overwrite t table => exact h.overwrite t table
  | call c =>
    cases c with
    | binding c =>
      cases c with
      | newHost name version missing refusals => exact h.addTable rfl rfl rfl
      | newMemory => exact h.addTable rfl rfl rfl
      | bind u => exact h.bind u
      | initTable p u => exact h.initTable p u
      | install p => exact h.install p
    | guard p c => exact .of_records ((stable_backed _).mirrors_through p c hrecords).2
    | table t r => exact .of_records ((stable_backed _).mirrors_call t r hrecords).2
    | lastError p =>
      simp only [CallerStep.apply, ProcessCall.apply, takeLastError.eq_def]
      split
      · exact h.of_guards_eq ⟨rfl, rfl⟩ rfl
      · split
        · exact h.of_guards_eq ⟨rfl, rfl⟩ rfl
        · exact h.modifyGuard fun _ _ => .inl
    | setPolicy p n =>
      simp only [CallerStep.apply, ProcessCall.apply, setPolicy.eq_def]
      split
      · exact h.modifyGuard fun _ _ => .inl
      · exact h.of_guards_eq ⟨rfl, rfl⟩ rfl

/-- What is handed out or filled is a debug table from then on, and nothing else becomes one. -/
theorem Backed.given_iff (h : s.Backed) (c : CallerStep) :
    t ∈ (c.apply s).debugTables ↔ t ∈ s.debugTables ∨ c.given s = some t := by
  have hfilled (c : ProcessCall) : (∃ i, CallerStep.write s (.call c) = some (t, some i)) ↔
      (c.filled s).map Prod.fst = some t := by
    rw [CallerStep.write]
    cases c.filled s <;> simp [Prod.ext_iff]
  have hknown := (h.apply c).known_iff (t := t)
  cases c with
  | overwrite t' table => simp [CallerStep.apply, CallerStep.given, modifyTable]
  | call c =>
    rw [hfilled] at hknown
    cases c with
    | binding c =>
      cases c with
      | bind u => exact h.known_of_bind u
      | _ => exact hknown
    | _ => exact hknown

/-! ### Runs -/

namespace CallerStep

variable {writes : List Write}

/-- What was written to tables explains the state. -/
structure Tracked (s : Surface) (writes : List Write) : Prop where
  backed : s.Backed
  filled : ∀ {t}, t ∈ s.debugTables → writes.lookup t ≠ none
  leads : ∀ {t i}, writes.lookup t = some (some i) →
    s.guard? (some t) = some i ∧ i < s.guards.size

theorem lookup_toList_eq_some_iff {w : Option Write} {o : Option Nat} :
    w.toList.lookup t = some o ↔ w = some (t, o) := by
  cases w with
  | none => simp
  | some w =>
    obtain ⟨t', o'⟩ := w
    rw [Option.toList_some, List.lookup_cons]
    cases ht : t == t' with
    | true => simp [beq_iff_eq.mp ht]
    | false => simp [Ne.symm (ne_of_beq_false ht)]

theorem lookup_toList_eq_none_iff {w : Option Write} :
    w.toList.lookup t = none ↔ w.map Prod.fst ≠ some t := by
  rw [Option.eq_none_iff_forall_ne_some]
  simp [lookup_toList_eq_some_iff]

namespace Tracked

variable (h : Tracked s writes)

include h

theorem append {w : Option Write} (hw : Writes w s s') : Tracked s' (w.toList ++ writes) where
  backed := hw.backed
  filled {t} ht := by
    rw [List.lookup_append]
    intro hnone
    obtain ⟨hnew, hold⟩ := Option.or_eq_none_iff.mp hnone
    obtain ht | ⟨i, rfl⟩ := hw.known_iff.mp ht
    · exact h.filled ht hold
    · exact lookup_toList_eq_none_iff.mp hnew rfl
  leads {t i} hi := by
    rw [List.lookup_append, Option.or_eq_some_iff] at hi
    obtain hnew | ⟨hnew, hold⟩ := hi
    · exact hw.leads (lookup_toList_eq_some_iff.mp hnew)
    · -- Nothing was written there, so what is behind the table is the same.
      obtain ⟨hguard, hi⟩ := h.leads hold
      obtain ⟨hdebug, table, htable, hstate⟩ := guard?_eq_some_iff.mp hguard
      have hsame := hw.rest (lt_of_guard? hguard) (lookup_toList_eq_none_iff.mp hnew)
      have hguard' : s'.guard? (some t) = some i :=
        guard?_eq_some_iff.mpr ⟨hw.known_iff.mpr (.inl hdebug), table, hsame.trans htable, hstate⟩
      exact ⟨hguard', Nat.lt_of_lt_of_le hi hw.guards⟩

theorem step (c : CallerStep) :
    Tracked (c.step s) ((if s.stopped.isSome then none else c.write s).toList ++ writes) := by
  unfold CallerStep.step
  split
  · exact h
  · exact h.append (h.backed.apply c)

theorem run (steps : List CallerStep) :
    Tracked (CallerStep.run s steps) (writesIn s steps ++ writes) := by
  induction steps generalizing s writes with
  | nil => exact h
  | cons c steps ih =>
    rw [writesIn, List.append_assoc]
    exact ih (h.step c)

theorem mem_givenIn (steps : List CallerStep) :
    t ∈ (CallerStep.run s steps).debugTables ↔ t ∈ s.debugTables ∨ t ∈ givenIn s steps := by
  induction steps generalizing s writes with
  | nil => simp [CallerStep.run, givenIn]
  | cons c steps ih =>
    have hstep : t ∈ (c.step s).debugTables ↔
        t ∈ s.debugTables ∨ (if s.stopped.isSome then none else c.given s) = some t := by
      unfold CallerStep.step
      split
      · simp
      · exact h.backed.given_iff c
    rw [givenIn, List.mem_append, Option.mem_toList, ← or_assoc]
    exact (ih (h.step c)).trans (or_congr_left hstep)

end Tracked

/-- What callers did not overwrite, they did not write to. -/
theorem lookup_writesIn_ne {steps : List CallerStep} (h : ∀ table, .overwrite t table ∉ steps) :
    (writesIn s steps).lookup t ≠ some none := by
  induction steps generalizing s with
  | nil => simp [writesIn]
  | cons c steps ih =>
    have hwrite : (if s.stopped.isSome then none else c.write s) ≠ some (t, none) := by
      split
      · simp
      · cases c with
        | call c =>
          rw [CallerStep.write]
          cases c.filled s <;> simp [Prod.ext_iff]
        | overwrite t' table =>
          have hne : t' ≠ t := by
            rintro rfl
            exact h table List.mem_cons_self
          rw [CallerStep.write]
          split <;> simp [hne]
    rw [writesIn, List.lookup_append]
    intro hlookup
    obtain hrest | ⟨-, hfirst⟩ := Option.or_eq_some_iff.mp hlookup
    · exact ih (fun table ht => h table (List.mem_cons_of_mem c ht)) hrest
    · exact hwrite (lookup_toList_eq_some_iff.mp hfirst)

theorem tracked_new (config : Config) : Tracked (new config) [] := by
  refine ⟨⟨?_, ?_⟩, ?_, ?_⟩
  · rintro t ⟨⟩
  · rintro i g t hg
    cases hg.symm.trans Array.getElem?_empty
  · rintro t ⟨⟩
  · rintro t i ⟨⟩

end CallerStep

/-! ### Turning pointers away -/

/-- What becomes of all calls that take a debug context when the pointer leads to none: each answers
with its failure, and that there was one is all that is kept of it. The last error of null is the
one that belongs to no debug table. -/
structure TurnsAway (s : Surface) (p : Pointer) : Prop where
  callDebug : ∀ r, s.callDebug p r =
    (.failure r.operation, { s with lastError := some .badTable })
  /-- A table may have debug functions without being a debug table. -/
  call : ∀ {t}, p = some t → s.tables[t]?.map OpTable.functions = some .debug →
    ∀ r, s.call t r = (.failure r.operation, { s with lastError := some .badTable })
  openHandle : ∀ u, s.openHandle p u = (.null, { s with lastError := some .badTable })
  resolve : ∀ h, s.resolve p h = (.null, { s with lastError := some .badTable })
  closeHandle : ∀ h, s.closeHandle p h = { s with lastError := some .badTable }
  newGeneration : s.newGeneration p = (0, { s with lastError := some .badTable })
  openHandleCount : ∀ since, s.openHandleCount p since =
    (0, { s with lastError := some .badTable })
  install : s.install p = (.refused, { s with lastError := some .badTable })
  setPolicy : ∀ n, s.setPolicy p n = (.refused, s)
  takeLastError : p ≠ none → s.takeLastError p = (ErrorCode.badTable.number, s)
  takeLastError_null : p = none →
    s.takeLastError p = (ErrorCode.lastNumber s.lastError, { s with lastError := none })

theorem turnsAway (h : s.guard? p = none) : s.TurnsAway p where
  callDebug _ := onGuard_of_none h ..
  call := by
    rintro t rfl hdebug r
    rw [call_eq_callDebug hdebug]
    exact onGuard_of_none h ..
  openHandle _ := onGuard_of_none h ..
  resolve _ := onGuard_of_none h ..
  closeHandle _ := congrArg Prod.snd (onGuard_of_none h ..)
  newGeneration := onGuard_of_none h ..
  openHandleCount _ := onGuard_of_none h ..
  install := by
    unfold Surface.install
    split
    · rename_i hguard
      cases h.symm.trans hguard
    · rfl
  setPolicy n := by
    unfold Surface.setPolicy
    split
    · rename_i hguard _
      cases h.symm.trans hguard
    · rfl
  takeLastError hp := by
    cases p with
    | none => exact absurd rfl hp
    | some t => simp only [Surface.takeLastError, h]
  takeLastError_null hp := by rw [hp]; rfl

/-- What becomes of binding calls on a universal table that cannot be used. -/
structure TurnsAwayUniversal (s : Surface) (u : Pointer) : Prop where
  bind : s.bind u = (none, { s with lastError := some .badTable })
  initTable : ∀ p, s.initTable p u = (.refused, { s with lastError := some .badTable })

theorem turnsAwayUniversal {u : Pointer} (h : s.universal? u = none) : s.TurnsAwayUniversal u where
  bind := by rw [Surface.bind, h]; rfl
  initTable p := by
    cases p with
    | none => rfl
    | some t => simp only [Surface.initTable, h, badTable]

/-- Which pointers lead to a debug context, when `given` are the tables that were filled or handed
out and `writes` is all that was written to tables. -/
structure PointerLaw (s : Surface) (given : List TableRef) (writes : List Write) : Prop where
  /-- Exactly the tables that were filled or handed out are known as debug tables. -/
  known : ∀ {t}, t ∈ s.debugTables ↔ t ∈ given
  /-- Only those are followed, if their version is the known one and their private part is not null.
  -/
  accepted : ∀ {t}, s.IsDebug t ↔ t ∈ given ∧
    ∃ table, s.tables[t]? = some table ∧ table.isCurrent = true ∧ table.backing ≠ .nothing
  /-- Unless a caller wrote to it since, a table leads to the debug context that it was filled for.
  -/
  leads : ∀ {t i}, writes.lookup t = some (some i) →
    s.guard? (some t) = some i ∧ i < s.guards.size
  /-- So, when the last write to a table was not a caller's, a debug context is behind it exactly if
  it was filled or handed out. -/
  untouched : ∀ {t}, writes.lookup t ≠ some none → (s.IsDebug t ↔ t ∈ given)
  /-- All other pointers are turned away. -/
  turnsAway : ∀ {p : Pointer}, (∀ t, p = some t → t ∉ given) → s.TurnsAway p
  /-- So are null and tables with another layout where a universal table is expected. -/
  turnsAwayUniversal : ∀ {u : Pointer}, (∀ t, u = some t → ¬s.Usable t) → s.TurnsAwayUniversal u
  /-- Null is not filled. -/
  nowhere : ∀ u, s.initTable none u = (.refused, { s with lastError := some .badTable })

theorem CallerStep.Tracked.pointerLaw {given : List TableRef} {writes : List Write}
    (h : CallerStep.Tracked s writes) (hknown : ∀ t, t ∈ s.debugTables ↔ t ∈ given) :
    s.PointerLaw given writes where
  known := hknown _
  accepted {t} := by rw [isDebug_iff_mem, hknown]
  leads := h.leads
  untouched {t} hown := by
    refine ⟨fun ht => (hknown t).mp (isDebug_iff_mem.mp ht).1, fun ht => ?_⟩
    -- It was filled, and that is the last that was written there.
    obtain ⟨o, ho⟩ := Option.ne_none_iff_exists'.mp (h.filled ((hknown t).mpr ht))
    cases o with
    | none => exact absurd ho hown
    | some i => exact isDebug_of_guard? (h.leads ho).1
  turnsAway {p} hp := by
    refine Surface.turnsAway ?_
    cases p with
    | none => rfl
    | some t =>
      have hnone : ¬s.IsDebug t := fun ht => hp t rfl ((hknown t).mp (isDebug_iff_mem.mp ht).1)
      exact Option.not_isSome_iff_eq_none.mp hnone
  turnsAwayUniversal {u} hu := by
    refine Surface.turnsAwayUniversal ?_
    cases huniversal : s.universal? u with
    | none => rfl
    | some served =>
      obtain ⟨rfl, hserved⟩ := usable_of_universal? huniversal
      exact absurd hserved (hu _ rfl)
  nowhere _ := rfl

/-- No pointer is taken for a debug context that is none. After any calls of a process and any
writes to the memory of tables, copies of debug tables included, a debug context is looked for
behind the tables that were filled for one or handed out, and behind no others; and it is found
behind all that no caller wrote to. Every call on another pointer is turned away, and so is every
binding of null or of a table with another layout, and every filling of null. -/
theorem no_context_confusion (config : Config) (steps : List CallerStep) :
    let s := CallerStep.run (new config) steps
    let given := CallerStep.givenIn (new config) steps
    s.PointerLaw given (CallerStep.writesIn (new config) steps) ∧
      ∀ t, (∀ table, .overwrite t table ∉ steps) → (s.IsDebug t ↔ t ∈ given) := by
  intro s given
  have hnew := CallerStep.tracked_new config
  have hlaw : s.PointerLaw given (CallerStep.writesIn (new config) steps) := by
    refine CallerStep.Tracked.pointerLaw ?_ fun t => ?_
    · simpa using hnew.run steps
    · exact (hnew.mem_givenIn steps).trans (or_iff_right List.not_mem_nil)
  exact ⟨hlaw, fun t ht => hlaw.untouched (CallerStep.lookup_writesIn_ne ht)⟩

/-- Table 2 is filled and table 3 is handed out for the host with table 0, whose own table is of the
right layout but leads to no debug context. Nor does table 1, though it is a copy of table 2. The
memory at 4 is not even a universal table. -/
theorem no_context_confusion_copied_table :
    let steps : List CallerStep := [.call (.binding (.newHost none Schema.tableVersion [] .none)),
      .call (.binding .newMemory), .call (.binding .newMemory),
      .call (.binding (.initTable (some 2) (some 0))), .call (.binding (.bind (some 0))),
      .call (.binding .newMemory), .overwrite 1 (.ofGuard 0 ("universal" ++ " (debug)"))]
    let s := CallerStep.run (new .default) steps
    CallerStep.givenIn (new .default) steps = [2, 3] ∧ s.tables[1]? = s.tables[2]? ∧
      s.Usable 0 ∧ ¬s.Usable 4 ∧ s.guard? (some 2) = some 0 ∧ s.guard? (some 3) = some 1 ∧
      s.TurnsAway none ∧ s.TurnsAway (some 0) ∧ s.TurnsAway (some 1) ∧
      s.call 1 (.fromInt 5) = (.handle .null, { s with lastError := some .badTable }) ∧
      s.TurnsAwayUniversal (some 4) := by
  intro steps s
  have hlaw := (no_context_confusion .default steps).1
  have hgiven : CallerStep.givenIn (new .default) steps = [2, 3] := by decide +kernel
  have hwrites : CallerStep.writesIn (new .default) steps =
      [(1, none), (3, some 1), (2, some 0)] := by decide +kernel
  have hblank : ¬s.Usable 4 := by
    rintro ⟨table, htable, hcurrent⟩
    have hlast : s.tables[4]? = some .blank := rfl
    cases hlast.symm.trans htable
    cases hcurrent
  rw [hgiven, hwrites] at hlaw
  have hcopy : s.TurnsAway (some 1) := hlaw.turnsAway (by simp)
  refine ⟨hgiven, rfl, ⟨_, rfl, rfl⟩, hblank, (hlaw.leads rfl).1, (hlaw.leads rfl).1,
    hlaw.turnsAway (by simp), hlaw.turnsAway (by simp), hcopy, hcopy.call rfl rfl _,
    hlaw.turnsAwayUniversal ?_⟩
  rintro t ⟨⟩
  exact hblank

end HandleGuard.Foreign.Surface
