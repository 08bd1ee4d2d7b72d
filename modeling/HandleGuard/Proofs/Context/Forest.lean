import HandleGuard.Binding
import HandleGuard.Proofs.Context.Frame
import Mathlib.Algebra.Group.Nat.Defs

/-!
# The shape of a forest

Calls go down the forest, and hooks act while they are under way. What stays the same all the time
is the shape of the forest: a context keeps its number, its identity and the context it stands
before, and its table only moves by operations of tables (`Forest.Evolves`). Contexts are made, one
at a time, and never go away. So each can be traced back to the moment when it was made
(`Forest.Grown`).

* `Forest.respond_evolves`   a call keeps the shape of the forest, whatever is called
* `Forest.Step`              what can happen to a forest
* `Forest.Step.grown`        what is known of each context stays known
-/

namespace HandleGuard

/-- From `d` to `d'` the table moved by a run, and only the log and the hook changed beside it. -/
def DebugContext.Evolves (d d' : DebugContext) : Prop :=
  ∃ history log hook hookLog, d' = { d with table := d.table.run history, log, hook, hookLog }

namespace DebugContext.Evolves

theorem refl (d : DebugContext) : d.Evolves d := ⟨[], d.log, d.hook, d.hookLog, rfl⟩

theorem trans {d d' d'' : DebugContext} (h : d.Evolves d') (h' : d'.Evolves d'') :
    d.Evolves d'' := by
  obtain ⟨history, log, hook, hookLog, rfl⟩ := h
  obtain ⟨history', log', hook', hookLog', rfl⟩ := h'
  refine ⟨history ++ history', log', hook', hookLog', ?_⟩
  rw [HandleTable.run_append]

/-- An operation on the table. -/
theorem onTable {α : Type} {op : HandleTable → α × HandleTable} (top : TableOp)
    (hop : ∀ t, (op t).2 = t.perform top) (d : DebugContext) : d.Evolves (d.onTable op).2 :=
  ⟨[top], d.log, d.hook, d.hookLog, by rw [DebugContext.onTable]; simp only [hop]; rfl⟩

theorem record (e : DebugError) (d : DebugContext) : d.Evolves (d.record e) := by
  rw [DebugContext.record]
  split
  · exact ⟨[], _, _, _, rfl⟩
  · exact ⟨[], _, _, _, rfl⟩

end DebugContext.Evolves

namespace Forest

/-- From `s` to `s'` no context was made, each stands where it stood, and debug contexts evolved. -/
structure Evolves (s s' : Forest) : Prop where
  stores_eq : s'.stores.map NamedStore.id = s.stores.map NamedStore.id
  size_eq : s'.contexts.size = s.contexts.size
  context : ∀ {i : Nat} {c : AttachedContext}, s.contexts[i]? = some c →
    ∃ c', s'.contexts[i]? = some c' ∧ c'.universal = c.universal ∧ c.context.Evolves c'.context

namespace Evolves

variable {s s' s'' : Forest}

theorem refl (s : Forest) : s.Evolves s :=
  ⟨rfl, rfl, fun {_ c} hc => ⟨c, hc, rfl, .refl c.context⟩⟩

theorem trans (h : s.Evolves s') (h' : s'.Evolves s'') : s.Evolves s'' where
  stores_eq := h'.stores_eq.trans h.stores_eq
  size_eq := h'.size_eq.trans h.size_eq
  context hc := by
    obtain ⟨c', hc', hu, hd⟩ := h.context hc
    obtain ⟨c'', hc'', hu', hd'⟩ := h'.context hc'
    exact ⟨c'', hc'', hu'.trans hu, hd.trans hd'⟩

/-- What evolves one context evolves the forest. -/
theorem update {α : Type} {f : DebugContext → α × DebugContext}
    (hf : ∀ d : DebugContext, d.Evolves (f d).2) (i : Nat) (s : Forest) :
    s.Evolves ((Forest.context i).update f s).2 where
  stores_eq := rfl
  size_eq := Array.size_setIfInBounds
  context {j c} hc := by
    have hlt := (Array.getElem?_eq_some_iff.mp hc).1
    show ∃ c', (s.contexts.setIfInBounds i _)[j]? = some c' ∧ _
    rw [Array.getElem?_setIfInBounds]
    by_cases hij : i = j
    · subst hij
      rw [if_pos rfl, if_pos hlt, hc]
      exact ⟨_, rfl, rfl, hf c.context⟩
    · rw [if_neg hij]
      exact ⟨c, hc, rfl, .refl c.context⟩

theorem modify {f : DebugContext → DebugContext} (hf : ∀ d : DebugContext, d.Evolves (f d))
    (i : Nat) (s : Forest) : s.Evolves ((Forest.context i).modify f s) :=
  update (f := fun d => ((), f d)) hf i s

/-- A debug context keeps the shape of the forest if its universal context does. -/
theorem framed {universal : Universal Forest}
    (hU : ∀ r (s : Forest), s.Evolves (universal r s).2) (i : Nat) :
    DebugContext.Framed (Forest.context i) universal Evolves where
  refl := refl
  trans := trans
  table top hop s := update (DebugContext.Evolves.onTable top hop) i s
  record e s := modify (DebugContext.Evolves.record e) i s
  noteHook _ s := modify (fun _ => ⟨[], _, _, _, rfl⟩) i s
  universal := hU

end Evolves

/-- A call keeps the shape of the forest. -/
theorem respond_evolves (c : ContextRef) (r : Request) (s : Forest) :
    s.Evolves (respond c r s).2 := by
  -- Induction on the height: a context passes calls on to a lower one.
  induction hheight : height c using Nat.strongRecOn generalizing c r s with
  | ind n ih =>
    cases c with
    | store i =>
      simp only [respond]
      split
      · exact .refl s
      · rename_i root hroot
        refine ⟨Array.ext_getElem? fun j => ?_, rfl, fun {_ c} hc => ⟨c, hc, rfl, .refl c.context⟩⟩
        rw [Array.getElem?_map, Array.getElem?_map, Array.getElem?_setIfInBounds]
        split
        · rename_i hij
          rw [← hij, if_pos (Array.getElem?_eq_some_iff.mp hroot).1, hroot]
          rfl
        · rfl
    | debug i =>
      simp only [respond]
      split
      · exact .refl s
      · rename_i c hc
        split
        · rename_i hlt
          exact (Evolves.framed (fun r s => ih _ (hheight ▸ hlt) c.universal r s rfl) i).respond r s
        · exact .refl s

theorem universalOf_evolves (i : Nat) (r : Request) (s : Forest) :
    s.Evolves (universalOf i r s).2 := by
  rw [universalOf]
  split
  · exact .refl s
  · exact respond_evolves _ r s

/-! ### Making contexts -/

/-- Whether a forest has a context. -/
def has (s : Forest) : ContextRef → Bool
  | .store i => i < s.stores.size
  | .debug i => i < s.contexts.size

/-- How many contexts were made. -/
def made (s : Forest) : Nat := s.stores.size + s.contexts.size

/-- The contexts of `s` keep their identities in `s'`. -/
def Keeps (s s' : Forest) : Prop := ∀ c, s.has c → s'.has c ∧ s'.idOf c = s.idOf c

/-- What can happen to a forest. -/
inductive Step (s : Forest) : Forest → Prop where
  | evolve {s' : Forest} (h : s.Evolves s') : Step s s'
  | store (name : String) : Step s (s.addStore name).2
  | context {universal : ContextRef} (h : s.has universal) (config : Config) :
    Step s (s.addContext universal config).2

/-- What is known of debug context `i`: it was made with tag `i`, before a context that was there.
-/
structure Placed (s : Forest) (i : Nat) (c : AttachedContext) : Prop where
  table : ∃ history,
    c.context.table = (HandleTable.new i c.context.config.closedQueueMax).run history
  has : s.has c.universal
  height : Forest.height c.universal < Forest.height (.debug i)
  universalId : c.context.universalId = s.idOf c.universal

/-- What is known of a forest: all debug contexts are placed, and until identities run out later
contexts have greater ones. -/
structure Grown (s : Forest) : Prop where
  placed : ∀ {i : Nat} {c : AttachedContext}, s.contexts[i]? = some c → s.Placed i c
  id_le : s.made < 2 ^ 64 → ∀ {i : Nat} {c : AttachedContext}, s.contexts[i]? = some c →
    c.context.id.value.toNat ≤ s.made
  id_lt : s.made < 2 ^ 64 → ∀ {i j : Nat} {c c' : AttachedContext}, s.contexts[i]? = some c →
    s.contexts[j]? = some c' → i < j → c.context.id.value.toNat < c'.context.id.value.toNat

variable {s s' : Forest}

theorem Evolves.made_eq (h : s.Evolves s') : s'.made = s.made := by
  have hstores := congrArg Array.size h.stores_eq
  rw [Array.size_map, Array.size_map] at hstores
  rw [made, made, hstores, h.size_eq]

/-- Evolving contexts keep their identities. -/
theorem Evolves.keeps (h : s.Evolves s') : s.Keeps s' := by
  intro c hc
  cases c with
  | store i =>
    have hstores := congrArg Array.size h.stores_eq
    rw [Array.size_map, Array.size_map] at hstores
    refine ⟨?_, ?_⟩
    · rwa [has, hstores]
    · rw [idOf, idOf, ← Array.getElem?_map, ← Array.getElem?_map, h.stores_eq]
  | debug i =>
    have hlt : i < s.contexts.size := decide_eq_true_iff.mp hc
    obtain ⟨c', hc', -, history, log, hook, hookLog, hd⟩ :=
      h.context (Array.getElem?_eq_getElem hlt)
    refine ⟨decide_eq_true (h.size_eq.symm ▸ hlt), ?_⟩
    rw [idOf, idOf, hc', Array.getElem?_eq_getElem hlt, Option.map_some, Option.map_some, hd]

/-- A context of the later forest was there before. -/
theorem Evolves.of_context (h : s.Evolves s') {i : Nat} {c' : AttachedContext}
    (hc' : s'.contexts[i]? = some c') :
    ∃ c, s.contexts[i]? = some c ∧ c'.universal = c.universal ∧ c.context.Evolves c'.context := by
  have hlt : i < s.contexts.size := h.size_eq ▸ (Array.getElem?_eq_some_iff.mp hc').1
  obtain ⟨c'', hc'', hu, hd⟩ := h.context (Array.getElem?_eq_getElem hlt)
  rw [hc'] at hc''
  cases hc''
  exact ⟨_, Array.getElem?_eq_getElem hlt, hu, hd⟩

theorem keeps_addStore (s : Forest) (name : String) : s.Keeps (s.addStore name).2 := by
  intro c hc
  cases c with
  | store i =>
    have hlt : i < s.stores.size := decide_eq_true_iff.mp hc
    have hsize : (s.addStore name).2.stores.size = s.stores.size + 1 := Array.size_push _
    refine ⟨decide_eq_true (by omega), ?_⟩
    rw [idOf, idOf, addStore, Array.getElem?_push, if_neg (Nat.ne_of_lt hlt)]
  | debug i => exact ⟨hc, rfl⟩

theorem keeps_addContext (s : Forest) (universal : ContextRef) (config : Config) :
    s.Keeps (s.addContext universal config).2 := by
  intro c hc
  cases c with
  | store i => exact ⟨hc, rfl⟩
  | debug i =>
    have hlt : i < s.contexts.size := decide_eq_true_iff.mp hc
    have hsize : (s.addContext universal config).2.contexts.size = s.contexts.size + 1 :=
      Array.size_push _
    refine ⟨decide_eq_true (by omega), ?_⟩
    rw [idOf, idOf, addContext, Array.getElem?_push, if_neg (Nat.ne_of_lt hlt)]

theorem Step.keeps (h : s.Step s') : s.Keeps s' := by
  cases h with
  | evolve h => exact h.keeps
  | store name => exact keeps_addStore s name
  | context _ config => exact keeps_addContext s _ config

/-- A context stays where it is. -/
theorem Step.context_stays (h : s.Step s') {i : Nat} {c : AttachedContext}
    (hc : s.contexts[i]? = some c) :
    ∃ c', s'.contexts[i]? = some c' ∧ c'.universal = c.universal ∧
      c.context.Evolves c'.context := by
  have hlt := (Array.getElem?_eq_some_iff.mp hc).1
  cases h with
  | evolve h => exact h.context hc
  | store name => exact ⟨c, hc, rfl, .refl c.context⟩
  | context _ config =>
    refine ⟨c, ?_, rfl, .refl c.context⟩
    rw [addContext, Array.getElem?_push, if_neg (Nat.ne_of_lt hlt), hc]

/-! ### Where contexts come from -/

theorem Placed.keep {i : Nat} {c : AttachedContext} (hc : s.Placed i c) (h : s.Keeps s') :
    s'.Placed i c where
  table := hc.table
  has := (h c.universal hc.has).1
  height := hc.height
  universalId := hc.universalId.trans (h c.universal hc.has).2.symm

theorem Grown.evolve (hs : s.Grown) (h : s.Evolves s') : s'.Grown where
  placed hc' := by
    obtain ⟨c, hc, hu, history, log, hook, hookLog, hd⟩ := h.of_context hc'
    have hplaced := (hs.placed hc).keep h.keeps
    obtain ⟨history', htable⟩ := hplaced.table
    refine ⟨⟨history' ++ history, ?_⟩, hu ▸ hplaced.has, hu ▸ hplaced.height, ?_⟩
    · rw [hd, HandleTable.run_append, ← htable]
    · rw [hd, hu]
      exact hplaced.universalId
  id_le hmade _ _ hc' := by
    obtain ⟨c, hc, -, history, log, hook, hookLog, hd⟩ := h.of_context hc'
    rw [h.made_eq] at hmade ⊢
    rw [hd]
    exact hs.id_le hmade hc
  id_lt hmade _ _ _ _ hc₁ hc₂ hij := by
    obtain ⟨c, hc, -, history, log, hook, hookLog, hd⟩ := h.of_context hc₁
    obtain ⟨k, hk, -, history', log', hook', hookLog', hd'⟩ := h.of_context hc₂
    rw [h.made_eq] at hmade
    rw [hd, hd']
    exact hs.id_lt hmade hc hk hij

theorem made_addStore (s : Forest) (name : String) : (s.addStore name).2.made = s.made + 1 := by
  show (s.stores.push _).size + s.contexts.size = s.stores.size + s.contexts.size + 1
  rw [Array.size_push, Nat.add_right_comm]

theorem made_addContext (s : Forest) (universal : ContextRef) (config : Config) :
    (s.addContext universal config).2.made = s.made + 1 := by
  show s.stores.size + (s.contexts.push _).size = _
  rw [Array.size_push]
  rfl

theorem Grown.addStore (hs : s.Grown) (name : String) : (s.addStore name).2.Grown := by
  have hmade := made_addStore s name
  refine ⟨fun hc => (hs.placed hc).keep (keeps_addStore s name), fun hlt _ _ hc => ?_,
    fun hlt _ _ _ _ hc hc' => hs.id_lt (by omega) hc hc'⟩
  rw [hmade]
  exact Nat.le_succ_of_le (hs.id_le (by omega) hc)

/-- A context of the forest with one more is the new one, or it was there before. -/
theorem contexts_addContext {universal : ContextRef} {config : Config} {i : Nat}
    {c : AttachedContext} (hc : (s.addContext universal config).2.contexts[i]? = some c) :
    i = s.contexts.size ∧ c.universal = universal ∧ c.context =
        .new s.nextId s.contexts.size (s.idOf universal) (s.nameOf universal) config ∨
      i < s.contexts.size ∧ s.contexts[i]? = some c := by
  rw [addContext, Array.getElem?_push] at hc
  split at hc
  · rename_i hi
    cases hc
    exact .inl ⟨hi, rfl, rfl⟩
  · exact .inr ⟨(Array.getElem?_eq_some_iff.mp hc).1, hc⟩

/-- Until identities run out, the next one is the number of contexts made. -/
theorem nextId_toNat (hlt : s.made + 1 < 2 ^ 64) : s.nextId.value.toNat = s.made + 1 :=
  Nat.mod_eq_of_lt hlt

theorem Grown.addContext (hs : s.Grown) {universal : ContextRef} (hu : s.has universal)
    (config : Config) : (s.addContext universal config).2.Grown := by
  have hkeeps := keeps_addContext s universal config
  have hmade := made_addContext s universal config
  refine ⟨fun hc => ?_, fun hlt _ _ hc => ?_, fun hlt i j c c' hc hc' hij => ?_⟩
  · obtain ⟨rfl, hcu, hcd⟩ | ⟨-, hc⟩ := contexts_addContext hc
    · refine ⟨⟨[], ?_⟩, ?_, ?_, ?_⟩
      · rw [hcd]
        rfl
      · rw [hcu]
        exact (hkeeps universal hu).1
      · rw [hcu]
        cases universal with
        | store i => exact Nat.succ_pos _
        | debug i => exact Nat.succ_lt_succ (decide_eq_true_iff.mp hu)
      · rw [hcd, hcu, (hkeeps universal hu).2]
        rfl
    · exact (hs.placed hc).keep hkeeps
  · rw [hmade] at hlt ⊢
    obtain ⟨-, -, hcd⟩ | ⟨-, hc⟩ := contexts_addContext hc
    · rw [hcd]
      exact Nat.le_of_eq (nextId_toNat hlt)
    · exact Nat.le_succ_of_le (hs.id_le (by omega) hc)
  · rw [hmade] at hlt
    obtain ⟨rfl, -, -⟩ | ⟨hi, hc⟩ := contexts_addContext hc
    · obtain ⟨rfl, -, -⟩ | ⟨hj, -⟩ := contexts_addContext hc' <;> omega
    · obtain ⟨-, -, hcd'⟩ | ⟨-, hc'⟩ := contexts_addContext hc'
      · rw [hcd']
        have hle := hs.id_le (by omega) hc
        exact Nat.lt_of_lt_of_eq (Nat.lt_succ_of_le hle) (nextId_toNat hlt).symm
      · exact hs.id_lt (by omega) hc hc' hij

theorem Step.grown (h : s.Step s') (hs : s.Grown) : s'.Grown := by
  cases h with
  | evolve h => exact hs.evolve h
  | store name => exact hs.addStore name
  | context hu config => exact hs.addContext hu config

end Forest

end HandleGuard
