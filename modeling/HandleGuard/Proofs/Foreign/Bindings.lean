import HandleGuard.Foreign.Binding

/-!
# Which debug table stands before a universal table

Three places must agree for a binding to mean anything: the registry, which knows the debug context
for a universal table; the context, which knows the table that is handed out for it; and the memory
of that table, which leads back to the context. `bind` and `install` keep them in agreement.
`initTable` writes memory only, and it keeps them in agreement as long as the memory is not a table
in service.

* `Surface.Intact`                 debug tables are as they were filled, and lead to their contexts
* `Surface.Agreed`                 the three places agree
* `Surface.Agreed.bind`, `Surface.Agreed.initTable`, `Surface.Agreed.install`   what each call does
* `Surface.foreign_binding_law`    any run of calls
* `Surface.Agreed.refilled`        filling a table in service breaks the agreement
-/

namespace HandleGuard.Foreign.Surface

variable {s : Surface} {t u : TableRef} {i : Nat}

/-! ### Tables and the contexts behind them -/

theorem guard?_eq_some_iff : s.guard? (some t) = some i ↔
    t ∈ s.debugTables ∧ ∃ table, s.tables[t]? = some table ∧ table.state? = some i := by
  rw [guard?]
  by_cases ht : t ∈ s.debugTables
  · rw [if_pos ht, Option.bind_eq_some_iff]
    exact (and_iff_right ht).symm
  · rw [if_neg ht]
    constructor
    · rintro ⟨⟩
    · exact fun h => absurd h.1 ht

theorem lt_of_guard? (h : s.guard? (some t) = some i) : t < s.tables.size := by
  obtain ⟨-, table, htable, -⟩ := guard?_eq_some_iff.mp h
  exact (Array.getElem?_eq_some_iff.mp htable).1

/-- The memory of tables is the same, and so is what is known of it. -/
structure SameTables (s s' : Surface) : Prop where
  tables : s'.tables = s.tables
  debugTables : s'.debugTables = s.debugTables

theorem SameTables.trans {s₁ s₂ s₃ : Surface} (h₁ : SameTables s₁ s₂) (h₂ : SameTables s₂ s₃) :
    SameTables s₁ s₃ :=
  ⟨h₂.tables.trans h₁.tables, h₂.debugTables.trans h₁.debugTables⟩

/-- What is behind a pointer is a matter of the tables. -/
theorem SameTables.guard?_eq {s' : Surface} (h : SameTables s s') (p : Pointer) :
    s'.guard? p = s.guard? p := by
  cases p with
  | none => rfl
  | some t => rw [guard?, guard?, h.tables, h.debugTables]

/-- Every debug table is as it was filled. -/
structure Intact (s : Surface) : Prop where
  filled : ∀ {t}, t ∈ s.debugTables → ∃ i name, s.tables[t]? = some (.ofGuard i name)

namespace Intact

variable (h : s.Intact)

include h

theorem lt (ht : t ∈ s.debugTables) : t < s.tables.size := by
  obtain ⟨i, name, htable⟩ := h.filled ht
  exact (Array.getElem?_eq_some_iff.mp htable).1

/-- All debug tables lead to debug contexts. -/
theorem exists_guard? (ht : t ∈ s.debugTables) : ∃ i, s.guard? (some t) = some i := by
  obtain ⟨i, name, htable⟩ := h.filled ht
  exact ⟨i, guard?_eq_some_iff.mpr ⟨ht, _, htable, rfl⟩⟩

/-- Who leads to a debug context has debug functions. -/
theorem functions (hi : s.guard? (some t) = some i) :
    s.tables[t]?.map OpTable.functions = some .debug := by
  obtain ⟨j, name, htable⟩ := h.filled (guard?_eq_some_iff.mp hi).1
  rw [htable]
  rfl

theorem of_sameTables {s' : Surface} (hs : SameTables s s') : s'.Intact where
  filled ht := by
    rw [hs.tables]
    exact h.filled (hs.debugTables ▸ ht)

end Intact

/-- A universal table that can be served. -/
def Usable (s : Surface) (u : TableRef) : Prop :=
  ∃ table, s.tables[u]? = some table ∧ table.isCurrent = true

theorem Usable.universal?_eq (h : s.Usable u) : ∃ name, s.universal? (some u) = some (u, name) := by
  obtain ⟨table, htable, hcurrent⟩ := h
  exact ⟨table.universalName, by
    simp only [universal?, Option.bind_eq_bind, Option.bind_some, htable, hcurrent, if_true]⟩

theorem usable_of_universal? {p : Pointer} {name : String} (h : s.universal? p = some (u, name)) :
    p = some u ∧ s.Usable u := by
  simp only [universal?, Option.bind_eq_bind, Option.bind_eq_some_iff] at h
  obtain ⟨v, rfl, table, htable, h⟩ := h
  split at h
  · rename_i hcurrent
    cases h
    exact ⟨rfl, table, htable, hcurrent⟩
  · cases h

/-- The table that is handed out for universal table `u`. -/
def tableOf (s : Surface) (u : TableRef) : Pointer := do
  let i ← s.registry.find? u
  (← s.guards[i]?).table

/-- The table is handed out for some universal table. -/
def InService (s : Surface) (t : TableRef) : Prop := ∃ u, s.tableOf u = some t

/-- Only what the registry has is in service, so this can be looked up. -/
theorem inService_iff : s.InService t ↔ ∃ b ∈ s.registry.bindings, s.tableOf b.1 = some t := by
  constructor
  · rintro ⟨u, hu⟩
    refine Classical.byContradiction fun hnone => ?_
    have hfind : s.registry.find? u = none := by
      rw [Registry.find?_eq_none_iff]
      rintro b hb rfl
      exact hnone ⟨b, hb, hu⟩
    simp only [tableOf, hfind, Option.bind_eq_bind, Option.bind_none] at hu
    cases hu
  · rintro ⟨b, -, hb⟩
    exact ⟨b.1, hb⟩

instance (s : Surface) (t : TableRef) : Decidable (s.InService t) :=
  decidable_of_iff _ inService_iff.symm

theorem tableOf_eq_some_iff : s.tableOf u = some t ↔
    ∃ i g, s.registry.find? u = some i ∧ s.guards[i]? = some g ∧ g.table = some t := by
  simp only [tableOf, Option.bind_eq_bind, Option.bind_eq_some_iff]
  constructor
  · rintro ⟨i, hi, g, hg, ht⟩
    exact ⟨i, g, hi, hg, ht⟩
  · rintro ⟨i, g, hi, hg, ht⟩
    exact ⟨i, hi, g, hg, ht⟩

/-- The registry, the debug contexts and the memory of their tables agree. -/
structure Agreed (s : Surface) : Prop where
  intact : s.Intact
  /-- A context stands before a universal table, and has its identity. -/
  before : ∀ {i : Nat} {g : Guard}, s.guards[i]? = some g →
    g.context.universalId = universalId g.universal ∧ s.Usable g.universal
  /-- Who is served has a table that leads to the context. -/
  served : ∀ {u i}, s.registry.find? u = some i → ∃ g t,
    s.guards[i]? = some g ∧ g.universal = u ∧ g.table = some t ∧ s.guard? (some t) = some i
  behind : ∀ {t i}, s.guard? (some t) = some i → i < s.guards.size
  /-- A context is behind one table at most. -/
  alone : ∀ {t t' i}, s.guard? (some t) = some i → s.guard? (some t') = some i → t = t'

/-- What a call makes of an agreement: there still is one, and all that was handed out stays. -/
structure Keeps (s s' : Surface) : Prop where
  agreed : s'.Agreed
  stays : ∀ {u t}, s.tableOf u = some t → s'.tableOf u = some t

theorem Keeps.trans {s₁ s₂ s₃ : Surface} (h₁ : Keeps s₁ s₂) (h₂ : Keeps s₂ s₃) : Keeps s₁ s₃ :=
  ⟨h₂.agreed, fun ht => h₂.stays (h₁.stays ht)⟩

/-! ### What happens to tables -/

/-- What was added last is changed. -/
theorem modify_push_size {α : Type} (xs : Array α) (x : α) (f : α → α) :
    (xs.push x).modify xs.size f = xs.push (f x) := by
  apply Array.ext_getElem?
  intro j
  rw [Array.getElem?_modify, Array.getElem?_push, Array.getElem?_push]
  by_cases hj : xs.size = j
  · simp [hj]
  · simp [hj, Ne.symm hj]

/-- The state with a new debug table. -/
def addDebugTable (s : Surface) (table : OpTable) : Surface :=
  { s with
    tables := s.tables.push table
    debugTables := s.debugTables.insert s.tables.size }

/-- A new table that is filled at once. -/
theorem fill_push (blank table : OpTable) :
    { s with tables := s.tables.push blank }.fill s.tables.size table = s.addDebugTable table := by
  simp only [fill, modifyTable, addDebugTable, modify_push_size, Array.size_push, Nat.lt_add_one,
    if_true]

/-- Where there is no memory, nothing is filled. -/
theorem fill_of_le (h : s.tables.size ≤ t) (table : OpTable) : s.fill t table = s := by
  have htables : s.tables.modify t (fun _ => table) = s.tables := by
    apply Array.ext_getElem?
    intro j
    rw [Array.getElem?_modify]
    split
    · rename_i heq
      rw [Array.getElem?_eq_none_iff.mpr (heq ▸ h), Option.map_none]
    · rfl
  rw [fill, modifyTable, htables, if_neg (Nat.not_lt.mpr h)]

/-- There is nothing behind a new table, whatever it holds. -/
theorem guard?_push (h : ∀ t ∈ s.debugTables, t < s.tables.size) (table : OpTable) (p : Pointer) :
    { s with tables := s.tables.push table }.guard? p = s.guard? p := by
  cases p with
  | none => rfl
  | some t =>
    rw [guard?, guard?]
    split
    · rename_i ht
      rw [Array.getElem?_push, if_neg (Nat.ne_of_lt (h t ht))]
    · rfl

theorem guard?_addDebugTable_iff {table : OpTable} :
    (s.addDebugTable table).guard? (some t) = some i ↔
      (t = s.tables.size ∧ table.state? = some i) ∨ s.guard? (some t) = some i := by
  rw [guard?_eq_some_iff, guard?_eq_some_iff, addDebugTable, List.mem_insert_iff,
    Array.getElem?_push]
  by_cases ht : t = s.tables.size
  · subst ht
    simp
  · simp [ht]

theorem guard?_fill_iff {table : OpTable} {t' : TableRef} :
    (s.fill t table).guard? (some t') = some i ↔
      (t' = t ∧ t < s.tables.size ∧ table.state? = some i) ∨
        (t' ≠ t ∧ s.guard? (some t') = some i) := by
  rw [guard?_eq_some_iff, guard?_eq_some_iff, fill, modifyTable, Array.getElem?_modify]
  by_cases hlt : t < s.tables.size
  · rw [if_pos hlt, List.mem_insert_iff]
    by_cases ht : t' = t
    · subst ht
      simp [hlt]
    · simp [ht, Ne.symm ht]
  · rw [if_neg hlt]
    by_cases ht : t' = t
    · subst ht
      simp [hlt]
    · simp [ht, Ne.symm ht]

namespace Intact

variable (h : s.Intact)

include h

theorem push (table : OpTable) : { s with tables := s.tables.push table }.Intact where
  filled ht := by
    rw [Array.getElem?_push, if_neg (Nat.ne_of_lt (h.lt ht))]
    exact h.filled ht

theorem fill (t i : Nat) (name : String) : (s.fill t (.ofGuard i name)).Intact where
  filled {t'} ht' := by
    rw [Surface.fill] at ht'
    rw [Surface.fill, modifyTable, Array.getElem?_modify]
    by_cases hlt : t < s.tables.size
    · rw [if_pos hlt, List.mem_insert_iff] at ht'
      by_cases heq : t = t'
      · subst heq
        exact ⟨i, name, by rw [if_pos rfl, Array.getElem?_eq_getElem hlt, Option.map_some]⟩
      · rw [if_neg heq]
        exact h.filled (ht'.resolve_left (Ne.symm heq))
    · rw [if_neg hlt] at ht'
      have hne : t ≠ t' := fun heq => hlt (heq ▸ h.lt ht')
      rw [if_neg hne]
      exact h.filled ht'

theorem addDebugTable (i : Nat) (name : String) : (s.addDebugTable (.ofGuard i name)).Intact := by
  rw [← fill_push .blank]
  exact (h.push .blank).fill ..

end Intact

theorem Usable.push (h : s.Usable u) (table : OpTable) :
    { s with tables := s.tables.push table }.Usable u := by
  obtain ⟨old, hold, hcurrent⟩ := h
  refine ⟨old, ?_, hcurrent⟩
  rw [Array.getElem?_push, if_neg, hold]
  have := (Array.getElem?_eq_some_iff.mp hold).1
  omega

/-- Filling a table leaves it usable. -/
theorem Usable.modifyTable (h : s.Usable u) {table : OpTable} (hcurrent : table.isCurrent = true) :
    (s.modifyTable t fun _ => table).Usable u := by
  obtain ⟨old, hold, hold'⟩ := h
  by_cases ht : t = u
  · refine ⟨table, ?_, hcurrent⟩
    rw [Surface.modifyTable, Array.getElem?_modify, if_pos ht, hold, Option.map_some]
  · refine ⟨old, ?_, hold'⟩
    rw [Surface.modifyTable, Array.getElem?_modify, if_neg ht, hold]

namespace Agreed

variable (h : s.Agreed)

include h

/-- Only the registry, the guards and the tables matter. -/
theorem keeps_of_eq {s' : Surface} (hregistry : s'.registry = s.registry)
    (hguards : s'.guards = s.guards) (htables : SameTables s s') : Keeps s s' := by
  have hintact := h.intact.of_sameTables htables
  obtain ⟨registry, hosts, guards, tables, debugTables, lastError, stopped⟩ := s'
  obtain ⟨rfl, rfl⟩ := htables
  subst hregistry hguards
  exact ⟨⟨hintact, h.before, h.served, h.behind, h.alone⟩, id⟩

/-- The context that is registered for a universal table is behind the table handed out for it. -/
theorem tableOf_iff : s.tableOf u = some t ↔
    ∃ i, s.registry.find? u = some i ∧ s.guard? (some t) = some i := by
  rw [tableOf_eq_some_iff]
  constructor
  · rintro ⟨i, g, hi, hg, ht⟩
    obtain ⟨g', t', hg', -, ht', hguard⟩ := h.served hi
    cases hg.symm.trans hg'
    cases ht.symm.trans ht'
    exact ⟨i, hi, hguard⟩
  · rintro ⟨i, hi, hguard⟩
    obtain ⟨g, t', hg, -, ht', hguard'⟩ := h.served hi
    cases h.alone hguard hguard'
    exact ⟨i, g, hi, hg, ht'⟩

/-- Different universal tables have different debug tables. -/
theorem eq_of_tableOf {v : TableRef} (hu : s.tableOf u = some t) (hv : s.tableOf v = some t) :
    u = v := by
  obtain ⟨i, hi, hguard⟩ := h.tableOf_iff.mp hu
  obtain ⟨j, hj, hguard'⟩ := h.tableOf_iff.mp hv
  cases hguard.symm.trans hguard'
  obtain ⟨g, -, hg, rfl, -⟩ := h.served hi
  obtain ⟨g', -, hg', rfl, -⟩ := h.served hj
  cases hg.symm.trans hg'
  rfl

/-- A new table that is no debug table. -/
theorem addTable (table : OpTable) : Keeps s { s with tables := s.tables.push table } := by
  have hguard (p : Pointer) : { s with tables := s.tables.push table }.guard? p = s.guard? p :=
    guard?_push (fun _ => h.intact.lt) table p
  have hagreed : { s with tables := s.tables.push table }.Agreed := by
    refine ⟨h.intact.push table, fun hg => ⟨(h.before hg).1, (h.before hg).2.push table⟩, ?_, ?_, ?_⟩
    · intro u i hi
      obtain ⟨g, t, hg, hu, ht, htable⟩ := h.served hi
      exact ⟨g, t, hg, hu, ht, (hguard _).trans htable⟩
    · exact fun ht => h.behind ((hguard _).symm.trans ht)
    · exact fun ht ht' => h.alone ((hguard _).symm.trans ht) ((hguard _).symm.trans ht')
  exact ⟨hagreed, id⟩

/-- What was handed out stays when the registry keeps what it has, and no table in service gets
another context. -/
theorem keeps {s' : Surface} (h' : s'.Agreed)
    (hfind : ∀ {u i}, s.registry.find? u = some i → s'.registry.find? u = some i)
    (hguard : ∀ {t i}, s.InService t → s.guard? (some t) = some i → s'.guard? (some t) = some i) :
    Keeps s s' where
  agreed := h'
  stays {u t} ht := by
    obtain ⟨i, hi, hti⟩ := h.tableOf_iff.mp ht
    exact h'.tableOf_iff.mpr ⟨i, hfind hi, hguard ⟨u, ht⟩ hti⟩

/-- A new context with table `t`, which was not in service. -/
private theorem withGuard {s' : Surface} {g : Guard} (hintact : s'.Intact)
    (hguards : s'.guards = s.guards.push g)
    (hid : g.context.universalId = universalId g.universal) (hu : s'.Usable g.universal)
    (husable : ∀ {v}, s.Usable v → s'.Usable v) (ht : ¬s.InService t)
    (hmemory : ∀ {t' j}, s'.guard? (some t') = some j →
      (t' = t ∧ j = s.guards.size) ∨ s.guard? (some t') = some j)
    (hrest : ∀ {t' j}, t' ≠ t → s.guard? (some t') = some j → s'.guard? (some t') = some j)
    (hfind : ∀ {v j}, s.registry.find? v = some j → s'.registry.find? v = some j)
    (hfound : ∀ {v j}, s'.registry.find? v = some j → s.registry.find? v = some j ∨
      j = s.guards.size ∧ g.universal = v ∧ g.table = some t ∧ s'.guard? (some t) = some j) :
    Keeps s s' := by
  have hat (j : Nat) : s'.guards[j]? = if j = s.guards.size then some g else s.guards[j]? := by
    rw [hguards, Array.getElem?_push]
  -- A table in service is not `t`, so its memory is as it was.
  have hkeep {v : TableRef} {t' j : Nat} (hv : s.registry.find? v = some j)
      (htable : s.guard? (some t') = some j) : s'.guard? (some t') = some j := by
    refine hrest ?_ htable
    rintro rfl
    exact ht ⟨v, h.tableOf_iff.mpr ⟨j, hv, htable⟩⟩
  have hagreed : s'.Agreed := by
    refine ⟨hintact, ?_, ?_, ?_, ?_⟩
    · intro j g' hg'
      rw [hat] at hg'
      split at hg'
      · cases hg'
        exact ⟨hid, hu⟩
      · exact ⟨(h.before hg').1, husable (h.before hg').2⟩
    · intro v j hv
      rcases hfound hv with hv | ⟨rfl, hgv, hgt, htable⟩
      · obtain ⟨g', t', hg', hgv, hgt, htable⟩ := h.served hv
        have hlt := h.behind htable
        refine ⟨g', t', ?_, hgv, hgt, hkeep hv htable⟩
        rw [hat, if_neg (by omega), hg']
      · exact ⟨g, t, by rw [hat, if_pos rfl], hgv, hgt, htable⟩
    · intro t' j htable
      rw [hguards, Array.size_push]
      rcases hmemory htable with ⟨-, rfl⟩ | htable
      · omega
      · have hlt := h.behind htable
        omega
    · intro t₁ t₂ j h₁ h₂
      rcases hmemory h₁ with ⟨rfl, rfl⟩ | h₁ <;> rcases hmemory h₂ with ⟨rfl, hj⟩ | h₂
      · rfl
      · exact absurd (h.behind h₂) (Nat.lt_irrefl _)
      · exact absurd (hj ▸ h.behind h₁) (Nat.lt_irrefl _)
      · exact h.alone h₁ h₂
  refine h.keeps hagreed hfind ?_
  rintro t' j ⟨v, ht'⟩ htable
  exact hrest (fun heq => ht (heq ▸ ⟨v, ht'⟩)) htable

/-- Memory that is not in service is filled for a new context. -/
theorem fill {g : Guard} (hid : g.context.universalId = universalId g.universal)
    (hu : s.Usable g.universal) (ht : ¬s.InService t) (name : String) :
    Keeps s { s.fill t (.ofGuard s.guards.size name) with guards := s.guards.push g } := by
  have husable {v : TableRef} (hv : s.Usable v) :
      (s.fill t (.ofGuard s.guards.size name)).Usable v := hv.modifyTable rfl
  have hintact := h.intact.fill t s.guards.size name
  refine h.withGuard (hintact.of_sameTables ⟨rfl, rfl⟩) rfl hid (husable hu) husable ht ?_ ?_ id .inl
  · intro t' j htable
    rcases guard?_fill_iff.mp htable with ⟨rfl, -, hj⟩ | ⟨-, htable⟩
    · cases hj
      exact .inl ⟨rfl, rfl⟩
    · exact .inr htable
  · exact fun hne htable => guard?_fill_iff.mpr (.inr ⟨hne, htable⟩)

/-- A new context is put in service with a new table. -/
theorem serve {g : Guard} (hid : g.context.universalId = universalId g.universal)
    (hu : s.Usable g.universal) (hfree : s.registry.find? g.universal = none)
    (ht : g.table = some s.tables.size) (name : String) :
    Keeps s { s.addDebugTable (.ofGuard s.guards.size name) with
      registry := s.registry.insert g.universal s.guards.size
      guards := s.guards.push g } := by
  have hnew {t : TableRef} {j : Nat} (htable : s.guard? (some t) = some j) : t ≠ s.tables.size :=
    Nat.ne_of_lt (lt_of_guard? htable)
  have husable {v : TableRef} (hv : s.Usable v) := hv.push (.ofGuard s.guards.size name)
  have hintact := h.intact.addDebugTable s.guards.size name
  refine h.withGuard (hintact.of_sameTables ⟨rfl, rfl⟩) rfl hid (husable hu) husable ?_ ?_ ?_ ?_ ?_
    (t := s.tables.size)
  · rintro ⟨v, hv⟩
    obtain ⟨i, -, htable⟩ := h.tableOf_iff.mp hv
    exact hnew htable rfl
  · intro t' j htable
    rcases guard?_addDebugTable_iff.mp htable with ⟨rfl, hj⟩ | htable
    · cases hj
      exact .inl ⟨rfl, rfl⟩
    · exact .inr htable
  · exact fun _ htable => guard?_addDebugTable_iff.mpr (.inr htable)
  · intro v j hv
    rw [Registry.find?_insert, if_neg, hv]
    rintro rfl
    cases hfree.symm.trans hv
  · intro v j hv
    rw [Registry.find?_insert] at hv
    split at hv
    · rename_i heq
      cases hv
      exact .inr ⟨rfl, heq.symm, ht, guard?_addDebugTable_iff.mpr (.inl ⟨rfl, rfl⟩)⟩
    · exact .inl hv

/-- The context behind a table is put in service, under that table. -/
theorem putInService {g : Guard} {registry : Registry TableRef} (hg : s.guards[i]? = some g)
    (htable : s.guard? (some t) = some i)
    (hfree : ∀ {j}, s.registry.find? g.universal = some j → j = i)
    (hfind : ∀ v, registry.find? v = if v = g.universal then some i else s.registry.find? v) :
    Keeps s { s with registry, guards := s.guards.modify i ({ · with table := some t }) } := by
  have hat (j : Nat) : (s.guards.modify i ({ · with table := some t }))[j]? =
      if i = j then some { g with table := some t } else s.guards[j]? := by
    rw [Array.getElem?_modify]
    split
    · rename_i heq
      rw [← heq, hg, Option.map_some]
    · rfl
  have hagreed : { s with
      registry, guards := s.guards.modify i ({ · with table := some t }) }.Agreed := by
    refine ⟨h.intact.of_sameTables ⟨rfl, rfl⟩, ?_, ?_, ?_, h.alone⟩
    · intro j g' hg'
      rw [hat] at hg'
      split at hg'
      · cases hg'
        exact ⟨(h.before hg).1, (h.before hg).2⟩
      · exact h.before hg'
    · intro v j hv
      rw [hfind] at hv
      split at hv
      · rename_i heq
        cases hv
        exact ⟨_, t, (hat i).trans (if_pos rfl), heq.symm, rfl, htable⟩
      · rename_i hne
        obtain ⟨g', t', hg', hgv, hgt, htable'⟩ := h.served hv
        refine ⟨g', t', (hat j).trans ((if_neg ?_).trans hg'), hgv, hgt, htable'⟩
        rintro rfl
        cases hg.symm.trans hg'
        exact hne hgv.symm
    · intro t' j htable'
      show j < (s.guards.modify i _).size
      rw [Array.size_modify]
      exact h.behind htable'
  refine h.keeps hagreed ?_ fun _ htable => htable
  intro v j hv
  rw [hfind]
  split
  · rename_i heq
    have hj : j = i := hfree (heq ▸ hv)
    rw [hj]
  · exact hv

end Agreed

/-! ### The calls -/

/-- No binding changes: neither the registry, nor a context, nor a table. -/
def Untouched (s s' : Surface) : Prop :=
  s'.registry = s.registry ∧ s'.guards = s.guards ∧ SameTables s s'

theorem untouched_failBinding (s : Surface) (e : DebugError) : Untouched s (s.failBinding e) := by
  unfold failBinding
  dsimp only
  split <;> exact ⟨rfl, rfl, rfl, rfl⟩

theorem Agreed.keeps_of_untouched {s' : Surface} (h : s.Agreed) (hs : Untouched s s') : Keeps s s' :=
  h.keeps_of_eq hs.1 hs.2.1 hs.2.2

/-- Who is served gets the table that was handed out, and nothing changes. -/
theorem bind_of_tableOf (hu : s.Usable u) (ht : s.tableOf u = some t) :
    s.bind (some u) = (some t, s) := by
  obtain ⟨name, huniversal⟩ := hu.universal?_eq
  obtain ⟨i, g, hi, hg, ht⟩ := tableOf_eq_some_iff.mp ht
  simp only [bind, huniversal, Registry.admission_of_find? hi, hg, Option.bind_some, ht]

/-- A debug context that is made before universal table `u`, and the table that is handed out. -/
def newGuard (s : Surface) (u : TableRef) (name : String) (table : Pointer) : Guard where
  context := .new s.nextId s.guards.size (universalId u) name s.registry.config
  universal := u
  universalName := name
  policy := s.registry.config.onInvalid
  lastError := none
  table := table

theorem addGuard_eq (u : TableRef) (name : String) : s.addGuard u name =
    (s.guards.size, { s with guards := s.guards.push (s.newGuard u name none) }) := rfl

theorem tableFor_push {table : Pointer} (u : TableRef) (name : String) :
    { s with guards := s.guards.push (s.newGuard u name table) }.tableFor s.guards.size =
      .ofGuard s.guards.size (name ++ " (debug)") := by
  rw [tableFor, Array.getElem?_push_size]
  rfl

/-- Who may be served gets a new table, before a new context that is in service at once. -/
theorem bind_of_free {name : String} (huniversal : s.universal? (some u) = some (u, name))
    (hfree : s.registry.admission u = .free) :
    s.bind (some u) = (some s.tables.size,
      { s.addDebugTable (.ofGuard s.guards.size (name ++ " (debug)")) with
        registry := s.registry.insert u s.guards.size
        guards := s.guards.push (s.newGuard u name (some s.tables.size)) }) := by
  -- The context is made without a table, and its table is filled and handed out in the same call.
  have hfill := fill_push (s := { s with guards := s.guards.push (s.newGuard u name none) }) .blank
    (.ofGuard s.guards.size (name ++ " (debug)"))
  simp only [bind, huniversal, hfree, addGuard_eq, tableFor_push, addTable, hfill, addDebugTable,
    handOut, modifyGuard, modify_push_size]
  rfl

/-- Memory that is filled holds a new context, which is not in service. -/
theorem initTable_eq {p : Pointer} {name : String} (huniversal : s.universal? p = some (u, name)) :
    s.initTable (some t) p = (.done, { s.fill t (.ofGuard s.guards.size (name ++ " (debug)")) with
      guards := s.guards.push (s.newGuard u name none) }) := by
  simp only [initTable, huniversal, addGuard_eq, tableFor_push]
  rfl

/-- The registry decides about the context behind a table: it is refused, in service already, or put
in service now. -/
theorem install_cases {g : Guard} (htable : s.guard? (some t) = some i)
    (hg : s.guards[i]? = some g) :
    (∃ e, s.install (some t) = (.refused, s.failBinding e)) ∨
    (s.registry.find? g.universal = some i ∧ s.install (some t) = (.done, s.handOut t i)) ∨
    (s.registry.find? g.universal = none ∧ s.install (some t) =
      (.done, { s with registry := s.registry.insert g.universal i }.handOut t i)) := by
  simp only [install, htable, hg, Option.map_some, Option.getD_some]
  cases hadmission : s.registry.admission g.universal with
  | bound j =>
    by_cases hji : j = i
    · subst hji
      exact .inr (.inl ⟨Registry.find?_of_bound hadmission, if_pos rfl⟩)
    · exact .inl ⟨_, if_neg hji⟩
  | refused bound => exact .inl ⟨_, rfl⟩
  | free => exact .inr (.inr ⟨Registry.find?_of_free hadmission, rfl⟩)

namespace Agreed

variable (h : s.Agreed)

include h

/-- A table that `bind` answers is the one handed out for the universal table from then on, and a
refusal changes no binding. -/
theorem bind (p : Pointer) : Keeps s (s.bind p).2 ∧
    (∀ t, (s.bind p).1 = some t → ∃ u, p = some u ∧ (s.bind p).2.tableOf u = some t) ∧
    ((s.bind p).1 = none → Untouched s (s.bind p).2) := by
  cases huniversal : s.universal? p with
  | none =>
    have hbad : Untouched s s.badTable := ⟨rfl, rfl, rfl, rfl⟩
    simp only [Surface.bind, huniversal]
    exact ⟨h.keeps_of_untouched hbad, by simp, fun _ => hbad⟩
  | some served =>
    obtain ⟨u, name⟩ := served
    obtain ⟨rfl, hu⟩ := usable_of_universal? huniversal
    cases hadmission : s.registry.admission u with
    | bound i =>
      have hi := Registry.find?_of_bound hadmission
      obtain ⟨g, t, hg, -, ht, -⟩ := h.served hi
      have htable : s.tableOf u = some t := tableOf_eq_some_iff.mpr ⟨i, g, hi, hg, ht⟩
      rw [bind_of_tableOf hu htable]
      refine ⟨h.keeps_of_untouched ⟨rfl, rfl, rfl, rfl⟩, ?_, by simp⟩
      rintro t' ⟨⟩
      exact ⟨u, rfl, htable⟩
    | refused bound =>
      have hfail := untouched_failBinding s (.configuration (universalId bound) (universalId u))
      simp only [Surface.bind, huniversal, hadmission]
      exact ⟨h.keeps_of_untouched hfail, by simp, fun _ => hfail⟩
    | free =>
      rw [bind_of_free huniversal hadmission]
      have hkeeps := h.serve (g := s.newGuard u name (some s.tables.size)) rfl hu
        (Registry.find?_of_free hadmission) rfl (name ++ " (debug)")
      refine ⟨hkeeps, ?_, by simp⟩
      rintro t ⟨⟩
      refine ⟨u, rfl, tableOf_eq_some_iff.mpr ⟨_, _, ?_, Array.getElem?_push_size, rfl⟩⟩
      rw [Registry.find?_insert, if_pos rfl]

/-- The table that is put in service is the one handed out from then on. A refusal changes no
binding. -/
theorem install (p : Pointer) : Keeps s (s.install p).2 ∧
    ((s.install p).1 = .done → ∃ t i g, p = some t ∧ s.guard? (some t) = some i ∧
      s.guards[i]? = some g ∧ (s.install p).2.tableOf g.universal = some t) ∧
    ((s.install p).1 = .refused → Untouched s (s.install p).2) := by
  have hbad : Untouched s s.badTable := ⟨rfl, rfl, rfl, rfl⟩
  cases p with
  | none => exact ⟨h.keeps_of_untouched hbad, by simp [Surface.install], fun _ => hbad⟩
  | some t =>
    cases htable : s.guard? (some t) with
    | none =>
      simp only [Surface.install, htable]
      exact ⟨h.keeps_of_untouched hbad, by simp, fun _ => hbad⟩
    | some i =>
      obtain ⟨g, hg⟩ : ∃ g, s.guards[i]? = some g := ⟨_, Array.getElem?_eq_getElem (h.behind htable)⟩
      -- What the registry finds afterwards is the same, whether the context is new to it or not.
      have hdone {registry : Registry TableRef}
          (hfree : ∀ {j}, s.registry.find? g.universal = some j → j = i)
          (hfind : ∀ v, registry.find? v = if v = g.universal then some i else s.registry.find? v) :
          Keeps s ({ s with registry }.handOut t i) ∧
            ({ s with registry }.handOut t i).tableOf g.universal = some t := by
        have hkeeps := h.putInService hg htable hfree hfind
        refine ⟨hkeeps, hkeeps.agreed.tableOf_iff.mpr ⟨i, ?_, htable⟩⟩
        exact (hfind _).trans (if_pos rfl)
      obtain ⟨e, hinstall⟩ | ⟨hi, hinstall⟩ | ⟨hnone, hinstall⟩ := install_cases htable hg
      · have hfail := untouched_failBinding s e
        rw [hinstall]
        exact ⟨h.keeps_of_untouched hfail, by simp, fun _ => hfail⟩
      · have hsame (v : TableRef) : s.registry.find? v =
            if v = g.universal then some i else s.registry.find? v := by
          split
          · rename_i hv
            rw [hv, hi]
          · rfl
        obtain ⟨hkeeps, htaken⟩ := hdone (fun hj => Option.some.inj (hj.symm.trans hi)) hsame
        rw [hinstall]
        exact ⟨hkeeps, fun _ => ⟨t, i, g, rfl, htable, hg, htaken⟩, by simp⟩
      · obtain ⟨hkeeps, htaken⟩ := hdone (fun hj => by cases hnone.symm.trans hj)
          (fun v => s.registry.find?_insert g.universal v i)
        rw [hinstall]
        exact ⟨hkeeps, fun _ => ⟨t, i, g, rfl, htable, hg, htaken⟩, by simp⟩

/-- Filling a table that is not in service changes no binding. -/
theorem initTable (p u : Pointer)
    (hp : ∀ t, p = some t → s.InService t → s.universal? u = none) :
    Keeps s (s.initTable p u).2 := by
  have hbad : Untouched s s.badTable := ⟨rfl, rfl, rfl, rfl⟩
  cases p with
  | none => exact h.keeps_of_untouched hbad
  | some t =>
    cases huniversal : s.universal? u with
    | none =>
      simp only [Surface.initTable, huniversal]
      exact h.keeps_of_untouched hbad
    | some served =>
      obtain ⟨u, name⟩ := served
      obtain ⟨rfl, hu⟩ := usable_of_universal? huniversal
      rw [initTable_eq huniversal]
      refine h.fill (g := s.newGuard u name none) rfl hu ?_ (name ++ " (debug)")
      intro hservice
      cases (hp t rfl hservice).symm.trans huniversal

end Agreed

theorem untouched_initTable {p u : Pointer} (h : (s.initTable p u).1 = .refused) :
    Untouched s (s.initTable p u).2 := by
  revert h
  unfold initTable
  split
  · simp
  · exact fun _ => ⟨rfl, rfl, rfl, rfl⟩

/-! ### Runs -/

/-- A call that makes a table or binds one. -/
inductive BindingCall where
  /-- A host makes a universal table. -/
  | newHost (name : Option ByteArray) (version : UInt32) (missing : List Operation)
    (refusals : Refusals)
  /-- A caller provides memory for a debug table. -/
  | newMemory
  | bind (u : Pointer)
  | initTable (p u : Pointer)
  | install (p : Pointer)

namespace BindingCall

/-- The state after a call. -/
def apply (s : Surface) : BindingCall → Surface
  | newHost name version missing refusals => (s.addHost name version missing refusals).2
  | newMemory => (s.addTable .blank).2
  | bind u => (s.bind u).2
  | initTable p u => (s.initTable p u).2
  | install p => (s.install p).2

/-- The state after some calls. -/
def run (s : Surface) (calls : List BindingCall) : Surface := calls.foldl apply s

@[simp] theorem run_nil (s : Surface) : run s [] = s := rfl

@[simp] theorem run_cons (s : Surface) (call : BindingCall) (calls : List BindingCall) :
    run s (call :: calls) = run (call.apply s) calls := rfl

/-- The call fills a table that is in service. -/
def Refills (s : Surface) : BindingCall → Prop
  | initTable (some t) u => s.InService t ∧ (s.universal? u).isSome
  | _ => False

instance (s : Surface) : (call : BindingCall) → Decidable (call.Refills s)
  | initTable (some t) u => inferInstanceAs (Decidable (s.InService t ∧ (s.universal? u).isSome))
  | initTable none _ | newHost .. | newMemory | bind _ | install _ =>
    inferInstanceAs (Decidable False)

/-- No call of the run fills a table that is in service then. -/
def Sparing (s : Surface) : List BindingCall → Prop
  | [] => True
  | call :: calls => ¬call.Refills s ∧ Sparing (call.apply s) calls

instance decidableSparing : (s : Surface) → (calls : List BindingCall) → Decidable (Sparing s calls)
  | _, [] => inferInstanceAs (Decidable True)
  | s, call :: calls =>
    have := decidableSparing (call.apply s) calls
    inferInstanceAs (Decidable (¬call.Refills s ∧ Sparing (call.apply s) calls))

theorem sparing_append {s : Surface} {calls later : List BindingCall} :
    Sparing s (calls ++ later) ↔ Sparing s calls ∧ Sparing (run s calls) later := by
  induction calls generalizing s with
  | nil => simp [Sparing]
  | cons call calls ih => simp only [List.cons_append, Sparing, run_cons, ih, and_assoc]

end BindingCall

theorem Agreed.apply (h : s.Agreed) {call : BindingCall} (hcall : ¬call.Refills s) :
    Keeps s (call.apply s) := by
  cases call with
  | newHost name version missing refusals =>
    have hhosts : Keeps s { s with hosts := s.hosts.push ⟨.empty, refusals⟩ } :=
      h.keeps_of_eq rfl rfl ⟨rfl, rfl⟩
    exact hhosts.trans (hhosts.agreed.addTable _)
  | newMemory => exact h.addTable .blank
  | bind u => exact (h.bind u).1
  | initTable p u =>
    refine h.initTable p u ?_
    rintro t rfl hservice
    cases huniversal : s.universal? u with
    | none => rfl
    | some served => exact absurd ⟨hservice, by rw [huniversal, Option.isSome_some]⟩ hcall
  | install p => exact (h.install p).1

theorem Agreed.run (h : s.Agreed) {calls : List BindingCall}
    (hcalls : BindingCall.Sparing s calls) : Keeps s (BindingCall.run s calls) := by
  induction calls generalizing s with
  | nil => exact ⟨h, id⟩
  | cons call calls ih =>
    have hstep := h.apply hcalls.1
    exact hstep.trans (ih hstep.agreed hcalls.2)

theorem intact_new (config : Config) : (new config).Intact where
  filled ht := by cases ht

theorem agreed_new (config : Config) : (new config).Agreed where
  intact := intact_new config
  before hg := by cases hg.symm.trans Array.getElem?_empty
  served hi := by cases hi
  behind ht := by cases (guard?_eq_some_iff.mp ht).1
  alone ht := by cases (guard?_eq_some_iff.mp ht).1

/-- What is true of the bindings at a time, and what the calls do then. -/
structure BindingLaw (s : Surface) : Prop where
  /-- A table that is handed out leads to the context in the registry, which stands before the
  universal table that it was handed out for. -/
  behind : ∀ {u t}, s.tableOf u = some t → ∃ i g, s.registry.find? u = some i ∧
    s.guard? (some t) = some i ∧ s.guards[i]? = some g ∧ g.universal = u ∧
    g.context.universalId = universalId u
  distinct : ∀ {u v t}, s.tableOf u = some t → s.tableOf v = some t → u = v
  bind_again : ∀ {u t}, s.tableOf u = some t → s.bind (some u) = (some t, s)
  bind_some : ∀ {p t}, (s.bind p).1 = some t → ∃ u, p = some u ∧ (s.bind p).2.tableOf u = some t
  install_done : ∀ {p}, (s.install p).1 = .done → ∃ t i g, p = some t ∧
    s.guard? (some t) = some i ∧ s.guards[i]? = some g ∧
    (s.install p).2.tableOf g.universal = some t
  bind_none : ∀ {p}, (s.bind p).1 = none → Untouched s (s.bind p).2
  initTable_refused : ∀ {p u}, (s.initTable p u).1 = .refused → Untouched s (s.initTable p u).2
  install_refused : ∀ {p}, (s.install p).1 = .refused → Untouched s (s.install p).2

theorem Agreed.usable_of_tableOf (h : s.Agreed) (ht : s.tableOf u = some t) : s.Usable u := by
  obtain ⟨i, hi, -⟩ := h.tableOf_iff.mp ht
  obtain ⟨g, -, hg, rfl, -⟩ := h.served hi
  exact (h.before hg).2

theorem Agreed.bindingLaw (h : s.Agreed) : s.BindingLaw where
  behind ht := by
    obtain ⟨i, hi, htable⟩ := h.tableOf_iff.mp ht
    obtain ⟨g, -, hg, rfl, -⟩ := h.served hi
    exact ⟨i, g, hi, htable, hg, rfl, (h.before hg).1⟩
  distinct hu hv := h.eq_of_tableOf hu hv
  bind_again ht := bind_of_tableOf (h.usable_of_tableOf ht) ht
  bind_some ht := (h.bind _).2.1 _ ht
  install_done hp := (h.install _).2.1 hp
  bind_none hp := (h.bind _).2.2 hp
  initTable_refused hp := untouched_initTable hp
  install_refused hp := (h.install _).2.2 hp

/-- The law of bindings across the foreign interface. It holds after any calls of a process, as long
as no call fills a table in service; and what was handed out by then is what any later call is
answered. -/
theorem foreign_binding_law (config : Config) (calls later : List BindingCall)
    (h : BindingCall.Sparing (new config) (calls ++ later)) :
    let s := BindingCall.run (new config) calls
    let s' := BindingCall.run (new config) (calls ++ later)
    s.BindingLaw ∧
    ∀ u t, s.tableOf u = some t → s'.tableOf u = some t ∧ s'.bind (some u) = (some t, s') := by
  intro s s'
  obtain ⟨hcalls, hlater⟩ := BindingCall.sparing_append.mp h
  have hs : Keeps (new config) s := (agreed_new config).run hcalls
  have hs' : Keeps s s' := by
    have happend : s' = BindingCall.run s later := List.foldl_append
    rw [happend]
    exact hs.agreed.run hlater
  refine ⟨hs.agreed.bindingLaw, fun u t ht => ?_⟩
  exact ⟨hs'.stays ht, hs'.agreed.bindingLaw.bind_again (hs'.stays ht)⟩

/-- A singleton registry serves one host, in memory of the caller. Another host and another context
before the first one are refused, whatever the memory of the latter held. -/
theorem foreign_binding_law_rivals :
    let config : Config := { Config.default with onInvalid := .report }
    let host : BindingCall := .newHost none Schema.tableVersion [] .none
    let calls : List BindingCall := [host, host, .newMemory, .newMemory,
      .initTable (some 2) (some 0), .install (some 2)]
    let later : List BindingCall := [.bind (some 1), .initTable (some 3) (some 1),
      .initTable (some 3) (some 0), .install (some 3)]
    let s := BindingCall.run (new config) calls
    let s' := BindingCall.run (new config) (calls ++ later)
    BindingCall.Sparing (new config) (calls ++ later) ∧
    (s.bind (some 1)).1 = none ∧ Untouched s (s.bind (some 1)).2 ∧
    s'.bind (some 0) = (some 2, s') := by
  intro config host calls later s s'
  have hsparing : BindingCall.Sparing (new config) (calls ++ later) := by decide +kernel
  have htable : s.tableOf 0 = some 2 := by decide +kernel
  have hrefused : (s.bind (some 1)).1 = none := by decide +kernel
  obtain ⟨hlaw, hstays⟩ := foreign_binding_law config calls later hsparing
  exact ⟨hsparing, hrefused, hlaw.bind_none hrefused, (hstays 0 2 htable).2⟩

/-- The condition cannot be left out. When a table in service is filled for another universal table,
it is still handed out for the one it served, though another context is behind it now. -/
theorem Agreed.refilled (h : s.Agreed) (ht : s.tableOf u = some t) {v : TableRef}
    (hv : s.Usable v) :
    let s' := (s.initTable (some t) (some v)).2
    s'.bind (some u) = (some t, s') ∧ ∃ i g, s'.registry.find? u ≠ some i ∧
      s'.guard? (some t) = some i ∧ s'.guards[i]? = some g ∧ g.universal = v := by
  obtain ⟨name, huniversal⟩ := hv.universal?_eq
  rw [initTable_eq huniversal]
  intro s'
  obtain ⟨i, hi, htable⟩ := h.tableOf_iff.mp ht
  have hlt := h.behind htable
  constructor
  · -- The registry and the context in it still say `t`.
    have hu : s'.Usable u := (h.usable_of_tableOf ht).modifyTable rfl
    obtain ⟨i, g, hi, hg, hgt⟩ := tableOf_eq_some_iff.mp ht
    refine bind_of_tableOf hu (tableOf_eq_some_iff.mpr ⟨i, g, hi, ?_, hgt⟩)
    have hold := (Array.getElem?_eq_some_iff.mp hg).1
    rw [Array.getElem?_push, if_neg (by omega), hg]
  · refine ⟨s.guards.size, s.newGuard v name none, ?_, ?_, Array.getElem?_push_size, rfl⟩
    · intro hfind
      cases hi.symm.trans hfind
      omega
    · exact guard?_fill_iff.mpr (.inl ⟨rfl, lt_of_guard? htable, rfl⟩)

/-- Table 2 is handed out for the first host, and then filled for the second one. The first host is
still served by it, and by the context of the second host. -/
theorem refilled_table_in_service :
    let host : BindingCall := .newHost none Schema.tableVersion [] .none
    let s := BindingCall.run (new .default)
      [host, host, .bind (some 0), .initTable (some 2) (some 1)]
    (s.bind (some 0)).1 = some 2 ∧ s.registry.find? 0 = some 0 ∧ s.guard? (some 2) = some 1 ∧
      s.guards[1]?.map Guard.universal = some 1 := by
  decide +kernel

end HandleGuard.Foreign.Surface
