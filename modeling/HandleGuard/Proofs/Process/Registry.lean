import HandleGuard.Proofs.Lists
import HandleGuard.Proofs.Process.Run

/-!
# Which context serves a universal context

A registry is filled in two ways, by `bind` and by `install`, and both ask it for admission first.
So what it once bound stays bound, each context stands under the identity of its own universal
context, and under the singleton policy there is one context at most (`registry_binding_law`).

* `Registry.Step`             what can happen to a registry
* `Registry.Sound`            what is known of a registry at any time
* `Forest.BindingLaw`         what its operations do then
-/

namespace HandleGuard

namespace Registry

variable {s s' : Forest} {R R' : Registry ContextId} {u uid : ContextId} {i : Nat}

/-- The registry serves one universal context only, and does so already. -/
def Taken (R : Registry ContextId) : Prop :=
  R.config.bindPolicy = .singleton ∧ R.bindings ≠ []

/-- What is known of a registry: a context is stored under the identity of its universal context,
identities occur once, and under the singleton policy there is one at most. -/
structure Sound (s : Forest) (R : Registry ContextId) : Prop where
  stored : ∀ {uid i}, (uid, i) ∈ R.bindings →
    ∃ c, s.contexts[i]? = some c ∧ c.context.universalId = uid
  nodup : (R.bindings.map Prod.fst).Nodup
  singleton : R.config.bindPolicy = .singleton → R.bindings.length ≤ 1

/-- What can happen to a registry: nothing, or a context of `s` is admitted. -/
inductive Step (s : Forest) (R : Registry ContextId) : Registry ContextId → Prop where
  | keep : Step s R R
  | register {i : Nat} {c : AttachedContext} (hc : s.contexts[i]? = some c)
    (hfree : R.admission c.context.universalId = .free) :
    Step s R (R.insert c.context.universalId i)

/-! ### Admission -/

/-- Who is not served yet is admitted, unless another one has the only place. -/
theorem admission_of_not_taken (hfind : R.find? u = none) (h : ¬R.Taken) :
    R.admission u = .free := by
  rw [admission, hfind]
  cases hpolicy : R.config.bindPolicy with
  | perContext => simp only [conflict?, hpolicy]
  | singleton =>
    have hempty : R.bindings = [] := Classical.not_not.mp fun hne => h ⟨hpolicy, hne⟩
    simp only [conflict?, hpolicy, hempty, List.find?_nil, Option.map_none]

/-- Who asks for the place of another one learns who that is. -/
theorem Sound.admission_of_taken (hR : R.Sound s) (hfind : R.find? u = none) (h : R.Taken) :
    ∃ bound i, R.bindings = [(bound, i)] ∧ bound ≠ u ∧ R.admission u = .refused bound := by
  have hlength : R.bindings.length = 1 :=
    Nat.le_antisymm (hR.singleton h.1) (List.length_pos_iff.mpr h.2)
  obtain ⟨⟨bound, i⟩, hb⟩ := List.length_eq_one_iff.mp hlength
  have hne : bound ≠ u := find?_eq_none_iff.mp hfind (bound, i) (hb ▸ List.mem_cons_self)
  refine ⟨bound, i, hb, hne, ?_⟩
  have hconflict : R.conflict? u = some bound := by
    rw [conflict?, h.1, hb]
    dsimp only
    rw [List.find?_cons_of_pos (by simpa using hne), Option.map_some]
  rw [admission, hfind, hconflict]

/-! ### What stays -/

theorem Sound.new (s : Forest) (config : Config) : (Registry.new config).Sound s where
  stored h := absurd h List.not_mem_nil
  nodup := List.nodup_nil
  singleton _ := Nat.zero_le 1

/-- Nothing is admitted beside the one context of a singleton registry. -/
theorem Sound.step (hR : R.Sound s) (hs : s.Step s') (h : Step s' R R') : R'.Sound s' := by
  have hstored : ∀ {uid i}, (uid, i) ∈ R.bindings →
      ∃ c, s'.contexts[i]? = some c ∧ c.context.universalId = uid := by
    intro uid i hmem
    obtain ⟨c, hc, rfl⟩ := hR.stored hmem
    obtain ⟨c', hc', -, history, log, hook, hookLog, hd⟩ := hs.context_stays hc
    exact ⟨c', hc', by rw [hd]⟩
  cases h with
  | keep => exact ⟨hstored, hR.nodup, hR.singleton⟩
  | @register i c hc hfree =>
    have hfind := find?_of_free hfree
    refine ⟨fun hmem => ?_, ?_, fun hpolicy => ?_⟩
    · rcases List.mem_cons.mp hmem with heq | hmem
      · cases heq
        exact ⟨c, hc, rfl⟩
      · exact hstored hmem
    · refine List.nodup_cons.mpr ⟨fun hmem => ?_, hR.nodup⟩
      obtain ⟨p, hp, heq⟩ := List.mem_map.mp hmem
      exact find?_eq_none_iff.mp hfind p hp heq
    · -- Had there been one already, it would have been in the way.
      by_cases htaken : R.Taken
      · obtain ⟨bound, j, -, -, hrefused⟩ := hR.admission_of_taken hfind htaken
        exact absurd (hrefused.symm.trans hfree) (by simp)
      · have hempty : R.bindings = [] := Classical.not_not.mp fun hne => htaken ⟨hpolicy, hne⟩
        show (R.bindings.length + 1) ≤ 1
        rw [hempty]
        exact Nat.le_refl 1

/-- What is bound stays bound to the same context. -/
theorem Step.find? (h : Step s R R') (hfind : R.find? uid = some i) : R'.find? uid = some i := by
  cases h with
  | keep => exact hfind
  | @register j c hc hfree =>
    have hne : uid ≠ c.context.universalId := by
      rintro rfl
      exact absurd (hfind.symm.trans (find?_of_free hfree)) (by simp)
    rw [find?_insert, if_neg hne]
    exact hfind

end Registry

namespace Process

variable {p : Process} {r : Nat} {R : Registry ContextId}

private theorem onRegistry_registry {k : Nat}
    {f : Registry ContextId → Forest → Registry ContextId × Forest}
    (hf : ∀ R : Registry ContextId, R.Step (f R p.forest).2 (f R p.forest).1)
    (hR : p.registries[r]? = some R) :
    ∃ R', (p.onRegistry k f).registries[r]? = some R' ∧ R.Step (p.onRegistry k f).forest R' := by
  have hlt := (Array.getElem?_eq_some_iff.mp hR).1
  rw [onRegistry]
  split
  · exact ⟨R, hR, .keep⟩
  · rename_i registry hregistry
    dsimp only
    rw [Array.getElem?_setIfInBounds]
    split
    · rename_i hk
      subst hk
      cases hR.symm.trans hregistry
      rw [if_pos hlt]
      exact ⟨_, rfl, hf R⟩
    · exact ⟨R, hR, .keep⟩

private theorem guarded_registry {p' : Process} {b : Bool} (hR : p.registries[r]? = some R)
    (h : b → ∃ R', p'.registries[r]? = some R' ∧ R.Step p'.forest R') :
    ∃ R', (if b then p' else p).registries[r]? = some R' ∧
      R.Step (if b then p' else p).forest R' := by
  cases b with
  | true => exact h rfl
  | false => exact ⟨R, hR, .keep⟩

private theorem bind_registry (s : Forest) (universal : ContextRef) (R : Registry ContextId) :
    R.Step (Forest.bind R universal s).2.2 (Forest.bind R universal s).2.1 := by
  rw [Forest.bind]
  split
  · exact .keep
  · exact .keep
  · rename_i hfree
    have hnew : (s.addContext universal R.config).2.contexts[s.contexts.size]? = some _ :=
      Array.getElem?_push_size
    exact .register hnew hfree

private theorem install_registry {s : Forest} {i : Nat} (hi : s.has (.debug i))
    (R : Registry ContextId) : R.Step s (Forest.install R i s).2 := by
  have hlt : i < s.contexts.size := decide_eq_true_iff.mp hi
  have hget : (Forest.context i).get s = s.contexts[i].context := by
    simp only [Focus.get, Forest.context, Array.getElem?_eq_getElem hlt, Option.getD_some]
  rw [Forest.install, hget]
  split
  · split <;> exact .keep
  · exact .keep
  · rename_i hfree
    exact .register (Array.getElem?_eq_getElem hlt) hfree

/-- What an operation does to a registry. -/
theorem apply_registry (hR : p.registries[r]? = some R) (op : ProcessOp) :
    ∃ R', (p.apply op).registries[r]? = some R' ∧ R.Step (p.apply op).forest R' := by
  cases op with
  | newRegistry config =>
    refine ⟨R, ?_, .keep⟩
    rw [apply, Array.getElem?_push, if_neg (Nat.ne_of_lt (Array.getElem?_eq_some_iff.mp hR).1), hR]
  | newContext universal config => exact guarded_registry hR fun _ => ⟨R, hR, .keep⟩
  | newContextLike k universal =>
    exact guarded_registry hR fun _ => onRegistry_registry (fun _ => .keep) hR
  | bind k universal =>
    exact guarded_registry hR fun _ => onRegistry_registry (bind_registry p.forest universal) hR
  | startModule k universal =>
    exact guarded_registry hR fun _ => onRegistry_registry (bind_registry p.forest universal) hR
  | install k i =>
    exact guarded_registry hR fun hi => onRegistry_registry (install_registry hi) hR
  | _ => exact ⟨R, hR, .keep⟩

private theorem onRegistry_size (p : Process) (k : Nat)
    (f : Registry ContextId → Forest → Registry ContextId × Forest) :
    (p.onRegistry k f).registries.size = p.registries.size := by
  rw [onRegistry]
  split
  · rfl
  · exact Array.size_setIfInBounds

private theorem guarded_size {p' : Process} {b : Bool}
    (h : p'.registries.size = p.registries.size) :
    (if b then p' else p).registries.size = p.registries.size := by
  cases b with
  | true => exact h
  | false => rfl

/-- A registry was there before, or it is new. -/
private theorem apply_registry_cases {op : ProcessOp} (hR : (p.apply op).registries[r]? = some R) :
    r < p.registries.size ∨ ∃ config, R = .new config := by
  have hlt := (Array.getElem?_eq_some_iff.mp hR).1
  have hold (h : (p.apply op).registries.size = p.registries.size) :
      r < p.registries.size ∨ ∃ config, R = .new config := .inl (h ▸ hlt)
  cases op with
  | newRegistry config =>
    rw [apply, Array.getElem?_push] at hR
    split at hR
    · exact .inr ⟨config, (Option.some.inj hR).symm⟩
    · exact .inl (Array.getElem?_eq_some_iff.mp hR).1
  | newContext universal config => exact hold (guarded_size rfl)
  | newContextLike k universal => exact hold (guarded_size (onRegistry_size p k _))
  | bind k universal => exact hold (guarded_size (onRegistry_size p k _))
  | startModule k universal => exact hold (guarded_size (onRegistry_size p k _))
  | install k i => exact hold (guarded_size (onRegistry_size p k _))
  | _ => exact hold rfl

/-- What is known of registries after a run. -/
theorem run_sound
    (hp : ∀ {r : Nat} {R : Registry ContextId}, p.registries[r]? = some R → R.Sound p.forest)
    (ops : List ProcessOp) (hR : (p.run ops).registries[r]? = some R) :
    R.Sound (p.run ops).forest := by
  induction ops generalizing p with
  | nil => exact hp hR
  | cons op ops ih =>
    refine ih (fun {k R'} hR' => ?_) hR
    rcases apply_registry_cases hR' with hlt | ⟨config, rfl⟩
    · obtain ⟨R'', hR'', hstep⟩ := apply_registry (Array.getElem?_eq_getElem hlt) op
      cases hR''.symm.trans hR'
      exact (hp (Array.getElem?_eq_getElem hlt)).step (apply_step p op) hstep
    · exact .new _ config

/-- Every registry of a process is sound, as a process starts without any. -/
theorem empty_run_sound (ops : List ProcessOp) (hR : (empty.run ops).registries[r]? = some R) :
    R.Sound (empty.run ops).forest :=
  run_sound (fun h => absurd (h.symm.trans Array.getElem?_empty) (by simp)) ops hR

/-- What is bound stays bound. -/
theorem run_find? (hR : p.registries[r]? = some R) (ops : List ProcessOp) :
    ∃ R', (p.run ops).registries[r]? = some R' ∧
      ∀ uid i, R.find? uid = some i → R'.find? uid = some i := by
  induction ops generalizing p R with
  | nil => exact ⟨R, hR, fun _ _ hfind => hfind⟩
  | cons op ops ih =>
    obtain ⟨R₁, hR₁, hstep⟩ := apply_registry hR op
    obtain ⟨R', hR', hkeep⟩ := ih hR₁
    exact ⟨R', hR', fun uid i hfind => hkeep uid i (hstep.find? hfind)⟩

end Process

namespace Forest

/-- What is true of a registry of a process, and what its operations do. Failed calls change
nothing, neither the registry nor the forest, so they use up no identity and no tag. -/
structure BindingLaw (s : Forest) (R : Registry ContextId) : Prop where
  /-- A context is stored under the identity of its own universal context. -/
  stored : ∀ {uid i}, (uid, i) ∈ R.bindings →
    ∃ c, s.contexts[i]? = some c ∧ c.context.universalId = uid ∧ s.idOf c.universal = uid
  nodup : (R.bindings.map Prod.fst).Nodup
  singleton : R.config.bindPolicy = .singleton → R.bindings.length ≤ 1
  bind_bound : ∀ {u i}, R.find? (s.idOf u) = some i → bind R u s = (.ok i, R, s)
  bind_taken : ∀ {u}, R.find? (s.idOf u) = none → R.Taken →
    ∃ bound i, R.bindings = [(bound, i)] ∧ bound ≠ s.idOf u ∧
      bind R u s = (.error (.configuration bound (s.idOf u)), R, s)
  bind_free : ∀ {u}, R.find? (s.idOf u) = none → ¬R.Taken →
    bind R u s = (.ok s.contexts.size, R.insert (s.idOf u) s.contexts.size,
      (s.addContext u R.config).2)
  install_bound : ∀ {i c}, s.contexts[i]? = some c → R.find? c.context.universalId = some i →
    install R i s = (.ok i, R)
  /-- Another context serves the universal context. Identities tell the two apart. -/
  install_rival : ∀ {i j c}, s.contexts[i]? = some c →
    R.find? c.context.universalId = some j → j ≠ i →
    install R i s = (.error (.configuration (s.idOf (.debug j)) (s.idOf (.debug i))), R) ∧
      (s.made < 2 ^ 64 → s.idOf (.debug j) ≠ s.idOf (.debug i))
  install_taken : ∀ {i c}, s.contexts[i]? = some c → R.find? c.context.universalId = none →
    R.Taken → ∃ bound j, R.bindings = [(bound, j)] ∧ bound ≠ c.context.universalId ∧
      install R i s = (.error (.configuration bound c.context.universalId), R)
  install_free : ∀ {i c}, s.contexts[i]? = some c → R.find? c.context.universalId = none →
    ¬R.Taken → install R i s = (.ok i, R.insert c.context.universalId i)
  /-- Starting the module binds. -/
  start_eq : ∀ u, BuiltinModule.debug.start R u s = bind R u s
  /-- Making a context and installing it is binding. -/
  install_eq_bind : ∀ {u}, R.find? (s.idOf u) = none → ¬R.Taken →
    let (i, s') := addContextLike R u s
    bind R u s = ((install R i s').1, (install R i s').2, s')

variable {s : Forest} {R : Registry ContextId}

private theorem get_context {i : Nat} {c : AttachedContext} (hc : s.contexts[i]? = some c) :
    (context i).get s = c.context := by
  simp only [Focus.get, context, hc, Option.getD_some]

/-- A sound registry of a grown forest keeps the law. -/
theorem bindingLaw (hs : s.Grown) (hR : R.Sound s) : s.BindingLaw R where
  stored hmem := by
    obtain ⟨c, hc, hid⟩ := hR.stored hmem
    exact ⟨c, hc, hid, (hs.placed hc).universalId.symm.trans hid⟩
  nodup := hR.nodup
  singleton := hR.singleton
  bind_bound hfind := by rw [bind, Registry.admission_of_find? hfind]
  bind_taken hfind htaken := by
    obtain ⟨bound, i, hb, hne, hrefused⟩ := hR.admission_of_taken hfind htaken
    exact ⟨bound, i, hb, hne, by rw [bind, hrefused]⟩
  bind_free hfind htaken := by
    rw [bind, Registry.admission_of_not_taken hfind htaken]
    rfl
  install_bound hc hfind := by
    rw [install, get_context hc, Registry.admission_of_find? hfind]
    exact if_pos rfl
  install_rival {i j c} hc hfind hne := by
    refine ⟨?_, fun hlt heq => ?_⟩
    · rw [install, get_context hc, Registry.admission_of_find? hfind]
      exact if_neg hne
    · obtain ⟨c', hc', -⟩ := hR.stored (List.mem_of_lookup hfind)
      simp only [idOf, hc, hc', Option.map_some, Option.getD_some] at heq
      rcases Nat.lt_or_gt_of_ne hne with hji | hij
      · exact absurd (heq ▸ hs.id_lt hlt hc' hc hji) (Nat.lt_irrefl _)
      · exact absurd (heq ▸ hs.id_lt hlt hc hc' hij) (Nat.lt_irrefl _)
  install_taken hc hfind htaken := by
    obtain ⟨bound, j, hb, hne, hrefused⟩ := hR.admission_of_taken hfind htaken
    exact ⟨bound, j, hb, hne, by rw [install, get_context hc, hrefused]⟩
  install_free hc hfind htaken := by
    rw [install, get_context hc, Registry.admission_of_not_taken hfind htaken]
  start_eq _ := rfl
  install_eq_bind {u} hfind htaken := by
    have hfree := Registry.admission_of_not_taken hfind htaken
    have hnew : (s.addContext u R.config).2.contexts[s.contexts.size]? = some _ :=
      Array.getElem?_push_size
    have hinstall : install R s.contexts.size (s.addContext u R.config).2 =
        (.ok s.contexts.size, R.insert (s.idOf u) s.contexts.size) := by
      have hid : ((context s.contexts.size).get (s.addContext u R.config).2).universalId =
          s.idOf u := by rw [get_context hnew]; rfl
      rw [install, hid, hfree]
    show bind R u s = ((install R s.contexts.size (s.addContext u R.config).2).1,
      (install R s.contexts.size (s.addContext u R.config).2).2, (s.addContext u R.config).2)
    rw [hinstall, bind, hfree]
    rfl

end Forest

/-- The law of registries. After any run of a process, each of its registries keeps the law; and
after any further run what it had bound is still bound to the same context, and binding the
universal context again gives that context and changes nothing. -/
theorem registry_binding_law (ops later : List ProcessOp) {r : Nat} {R : Registry ContextId}
    (hR : (Process.empty.run ops).registries[r]? = some R) :
    let s := (Process.empty.run ops).forest
    let p' := Process.empty.run (ops ++ later)
    s.BindingLaw R ∧
    (∀ u, s.has u → p'.forest.idOf u = s.idOf u) ∧
    ∃ R', p'.registries[r]? = some R' ∧
      ∀ uid i, R.find? uid = some i → R'.find? uid = some i ∧
        ∀ u, p'.forest.idOf u = uid → Forest.bind R' u p'.forest = (.ok i, R', p'.forest) := by
  have hgrown := Process.run_grown Process.empty_grown ops
  have hsound := Process.empty_run_sound ops hR
  have hgrown' := Process.run_grown Process.empty_grown (ops ++ later)
  have happend := Process.run_append .empty ops later
  obtain ⟨R', hR', hkeep⟩ := Process.run_find? hR later
  rw [← happend] at hR'
  have hsound' := Process.empty_run_sound (ops ++ later) hR'
  refine ⟨Forest.bindingLaw hgrown hsound, fun u hu => ?_, R', hR', fun uid i hfind => ?_⟩
  · rw [happend]
    exact (Process.run_keeps _ later u hu).2
  · have hfind' := hkeep uid i hfind
    refine ⟨hfind', ?_⟩
    rintro u rfl
    exact (Forest.bindingLaw hgrown' hsound').bind_bound hfind'

/-- A singleton registry serves the first of two stores. Neither the second store nor another
context before the first one is admitted; nor are they when the module is started again, and a
context is stacked on the one in service. -/
theorem registry_binding_law_singleton :
    let ops : List ProcessOp := [.newRegistry .default, .newStore "u", .newStore "v",
      .bind 0 (.store 0), .bind 0 (.store 1), .newContext (.store 0) .default]
    let later : List ProcessOp := [.startModule 0 (.store 0), .newContext (.debug 0) .default,
      .install 0 2]
    let s := (Process.empty.run ops).forest
    let p' := Process.empty.run (ops ++ later)
    let R : Registry ContextId := ⟨.default, [(⟨1⟩, 0)]⟩
    (Process.empty.run ops).registries[0]? = some R ∧
    Forest.bind R (.store 1) s = (.error (.configuration ⟨1⟩ ⟨2⟩), R, s) ∧
    Forest.install R 1 s = (.error (.configuration ⟨3⟩ ⟨4⟩), R) ∧
    ∃ R', p'.registries[0]? = some R' ∧
      Forest.bind R' (.store 0) p'.forest = (.ok 0, R', p'.forest) := by
  intro ops later s p' R
  have hR : (Process.empty.run ops).registries[0]? = some R := by decide +kernel
  have hstores : s.has (.store 0) ∧ s.idOf (.store 0) = ⟨1⟩ ∧ s.idOf (.store 1) = ⟨2⟩ := by
    decide +kernel
  have hids : s.idOf (.debug 0) = ⟨3⟩ ∧ s.idOf (.debug 1) = ⟨4⟩ := by decide +kernel
  have hrival : (s.contexts[1]?.map fun c => c.context.universalId) = some ⟨1⟩ := by
    decide +kernel
  obtain ⟨c, hc, hid⟩ := Option.map_eq_some_iff.mp hrival
  obtain ⟨hlaw, hsame, R', hR', hkeep⟩ := registry_binding_law ops later hR
  refine ⟨hR, ?_, ?_, R', hR', ?_⟩
  · obtain ⟨bound, i, hb, -, hbind⟩ :=
      hlaw.bind_taken (u := .store 1) (by rw [hstores.2.2]; decide) ⟨rfl, by simp [R]⟩
    cases hb
    rw [hbind, hstores.2.2]
  · have hinstall := (hlaw.install_rival hc (j := 0) (by rw [hid]; decide) (by decide)).1
    rwa [hids.1, hids.2] at hinstall
  · refine (hkeep ⟨1⟩ 0 (by decide)).2 (.store 0) ?_
    rw [hsame (.store 0) hstores.1, hstores.2.1]

end HandleGuard
