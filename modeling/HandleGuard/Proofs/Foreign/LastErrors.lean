import HandleGuard.Proofs.Foreign.Pointers

/-!
# Last errors and policies

Each debug table has a last error, and so have all pointers together that lead to none. What it is,
the history tells: the latest failure there, unless it was asked for since or the table was filled
anew. The history tells, too, which policy is in force at a table, and so which of its failures stop
the process.

* `lastErrorIn`, `policyIn`        what a history says
* `Event.IsFatal`                  which events stop the process
* `Recorded.Told`                  the state is as its history says
* `Recorded.last_error_law`        any run
-/

namespace HandleGuard.Foreign

/-! ### What a history says -/

namespace Event

/-- The last error of `p` after an event that it is affected by. -/
def lastError? (p : Pointer) : Event → Option (Option ErrorCode)
  | ended q (some e) => if q = p then some (some (.ofCallError e)) else none
  | refused code => if p = none then some (some code) else none
  | asked q | filled q => if q = p then some none else none
  | ended _ none | policy .. => none

/-- The policy for `p` after an event that it is affected by. -/
def policy? (config : Config) (p : Pointer) : Event → Option InvalidPolicy
  | filled q => if q = p then some config.onInvalid else none
  | policy q new => if q = p then some new else none
  | ended .. | refused _ | asked _ => none

end Event

/-- The event that a call by the pointer `p` ended with the answer `a`. -/
def Event.ofAnswer {α : Type} (p : Pointer) : Except CallError α → Event
  | .ok _ => .ended p none
  | .error e => .ended p (some e)

/-- The last error of `p`, as the latest event says that affects it. -/
def lastErrorIn (h : List Event) (p : Pointer) : Option ErrorCode :=
  (h.findSome? (Event.lastError? p)).getD none

/-- The policy for `p`, as the latest event says that affects it. -/
def policyIn (config : Config) (h : List Event) (p : Pointer) : InvalidPolicy :=
  (h.findSome? (Event.policy? config p)).getD config.onInvalid

/-- An event after the history `h` that stops the process: a check fails at a table whose policy is
to stop, or a binding is refused and such is the policy of the registry. -/
def Event.IsFatal (config : Config) (h : List Event) : Event → Prop
  | ended p (some (.check _)) => policyIn config h p = .abort
  | refused .configuration => config.onInvalid = .abort
  | _ => False

/-- Something among `new`, which happened after `h`, stops the process. -/
def Fatal (config : Config) (h new : List Event) : Prop :=
  ∃ later e earlier, new = later ++ e :: earlier ∧ e.IsFatal config (earlier ++ h)

variable {config : Config} {e : Event} {h new : List Event} {p : Pointer}

theorem lastErrorIn_cons : lastErrorIn (e :: h) p = (e.lastError? p).getD (lastErrorIn h p) := by
  rw [lastErrorIn, List.findSome?_cons]
  cases e.lastError? p <;> rfl

theorem lastErrorIn_append (hnew : ∀ e ∈ new, e.lastError? p = none) :
    lastErrorIn (new ++ h) p = lastErrorIn h p := by
  rw [lastErrorIn, List.findSome?_append, List.findSome?_eq_none_iff.mpr hnew, Option.none_or,
    lastErrorIn]

theorem policyIn_cons : policyIn config (e :: h) p = (e.policy? config p).getD (policyIn config h p) := by
  rw [policyIn, List.findSome?_cons]
  cases e.policy? config p <;> rfl

theorem not_fatal_nil : ¬Fatal config h [] := by
  rintro ⟨later, e, earlier, heq, -⟩
  simp at heq

theorem fatal_cons : Fatal config h (e :: new) ↔ e.IsFatal config (new ++ h) ∨ Fatal config h new := by
  constructor
  · rintro ⟨later, e', earlier, heq, he'⟩
    cases later with
    | nil =>
      cases heq
      exact .inl he'
    | cons _ later =>
      obtain ⟨-, rfl⟩ := List.cons.inj heq
      exact .inr ⟨later, e', earlier, rfl, he'⟩
  · rintro (he | ⟨later, e', earlier, rfl, he'⟩)
    · exact ⟨[], e, new, rfl, he⟩
    · exact ⟨e :: later, e', earlier, rfl, he'⟩

theorem fatal_append : Fatal config [] (new ++ h) ↔ Fatal config h new ∨ Fatal config [] h := by
  induction new with
  | nil => simp [not_fatal_nil]
  | cons e new ih =>
    rw [List.cons_append, fatal_cons, ih, fatal_cons, List.append_nil, or_assoc]

/-! ### What is kept of it -/

/-- What a debug context keeps of its history. -/
def Guard.kept (g : Guard) : Option ErrorCode × InvalidPolicy := (g.lastError, g.policy)

namespace Surface

variable {s s' : Surface} {t : TableRef} {i : Nat}

/-- What the debug context behind table `t` keeps of its history. -/
def kept (s : Surface) (t : TableRef) : Option (Option ErrorCode × InvalidPolicy) :=
  (s.guard? (some t)).bind fun i => s.guards[i]?.map Guard.kept

/-- Null has a last error, and so has every debug table. -/
def HasLastError (s : Surface) (p : Pointer) : Prop := ∀ t, p = some t → s.IsDebug t

/-- Each debug context is behind one table at most. -/
def Alone (s : Surface) : Prop :=
  ∀ t t' i, s.guard? (some t) = some i → s.guard? (some t') = some i → t = t'

theorem kept_of_guard? (h : s.guard? (some t) = some i) : s.kept t = s.guards[i]?.map Guard.kept := by
  rw [kept, h, Option.bind_some]

/-- A change of the context behind one table is no change for any other table. -/
theorem kept_modify (halone : s.Alone) (hi : s.guard? (some t) = some i)
    (htables : SameTables s s') {f : Guard → Guard}
    (hguards : s'.guards = s.guards.modify i f) {F : Option ErrorCode × InvalidPolicy → _}
    (hF : ∀ g, (f g).kept = F g.kept) (t' : TableRef) :
    s'.kept t' = (s.kept t').map fun k => if t' = t then F k else k := by
  rw [kept, kept, htables.guard?_eq]
  cases hj : s.guard? (some t') with
  | none => rfl
  | some j =>
    rw [Option.bind_some, Option.bind_some, hguards, Array.getElem?_modify]
    by_cases hij : i = j
    · subst hij
      obtain rfl := halone _ _ _ hi hj
      simp [Function.comp_def, hF]
    · have hne : t' ≠ t := by
        rintro rfl
        exact hij (Option.some.inj (hi.symm.trans hj))
      simp [hij, hne, Function.comp_def]

/-- A failed check stops the process under the policy of its context, and no other failure does. -/
theorem failCall_fatal_iff {g : Guard} (hg : s.guards[i]? = some g) (e : CallError)
    (hrunning : s.stopped = none) : (∃ d, (s.failCall i e).stopped = some (.fatal d)) ↔
      e.debugError?.isSome ∧ g.policy = .abort := by
  have hnoted : (s.guards.modify i ({ · with lastError := some (.ofCallError e) }))[i]? =
      some { g with lastError := some (.ofCallError e) } := by
    rw [Array.getElem?_modify, if_pos rfl, hg, Option.map_some]
  cases e with
  | call code text => simp [failCall, modifyGuard, hrunning, CallError.debugError?]
  | check e =>
    simp only [failCall, modifyGuard, hnoted]
    cases hpolicy : g.policy <;> simp [stop, hrunning, CallError.debugError?]

theorem takeLastError_eq (p : Pointer) (s : Surface) : ∃ guards lastError,
    (s.takeLastError p).2 = { s with guards, lastError } := by
  unfold takeLastError
  split
  · exact ⟨_, _, rfl⟩
  · split <;> exact ⟨_, _, rfl⟩

/-- A process stops once. -/
theorem stop_of_stopped (h : s.stopped ≠ none) (reason : Stop) : s.stop reason = s := by
  cases hs : s.stopped with
  | none => exact absurd hs h
  | some r => simp only [stop, hs, Option.orElse_eq_orElse, Option.orElse_some]; rw [← hs]

theorem failCall_of_stopped (h : s.stopped ≠ none) (e : CallError) :
    (s.failCall i e).stopped = s.stopped := by
  unfold failCall
  dsimp only
  split
  · split
    · exact (congrArg Surface.stopped (stop_of_stopped h _)).trans rfl
    · rfl
  · rfl

/-- A refused binding is noted, and may stop the process. -/
theorem failBinding_eq (s : Surface) (e : DebugError) : ∃ stopped, s.failBinding e =
    { s with lastError := some (.ofDebugError e), stopped } := by
  unfold failBinding
  dsimp only
  split <;> exact ⟨_, rfl⟩

theorem failBinding_fatal_iff (e : DebugError) (hrunning : s.stopped = none) :
    (∃ d, (s.failBinding e).stopped = some (.fatal d)) ↔ s.registry.config.onInvalid = .abort := by
  unfold failBinding
  cases hpolicy : s.registry.config.onInvalid <;> simp [hpolicy, stop, hrunning]

/-- What a context does with handles changes nothing of what it keeps. -/
theorem kept_update {α : Type} (i : Nat) (f : DebugContext → α × DebugContext) (s : Surface)
    (t : TableRef) : ((context i).update f s).2.kept t = s.kept t := by
  rw [kept, kept, SameTables.guard?_eq (s := s) ⟨rfl, rfl⟩]
  refine congrArg (Option.bind _) (funext fun j => ?_)
  rw [getElem?_guards_update, Option.map_map]
  refine congrArg (Option.map · _) (funext fun g => ?_)
  rw [Function.comp_apply]
  split <;> rfl

end Surface

namespace Recorded

open Surface

/-! ### States that are as their history says -/

/-- The history says of each debug table what its context keeps, and what the last error of all
other pointers is. -/
structure Tells (config : Config) (s : Surface) (h : List Event) : Prop where
  config_eq : s.registry.config = config
  intact : s.Intact
  served : ∀ {u i}, s.registry.find? u = some i →
    ∃ t, s.guards[i]?.bind Guard.table = some t ∧ s.IsDebug t
  alone : s.Alone
  kept : ∀ {t}, s.IsDebug t →
    s.kept t = some (lastErrorIn h (some t), policyIn config h (some t))
  null : s.lastError = lastErrorIn h none

namespace Tells

variable {s s' : Surface} (hs : Tells config s h)

include hs

/-- There is a context behind each debug table, and it keeps what the history says. -/
theorem guard {t : TableRef} {i : Nat} (hi : s.guard? (some t) = some i) :
    ∃ g, s.guards[i]? = some g ∧ g.kept = (lastErrorIn h (some t), policyIn config h (some t)) := by
  have hkept := hs.kept (isDebug_of_guard? hi)
  rw [kept_of_guard? hi] at hkept
  exact Option.map_eq_some_iff.mp hkept

theorem reads (hp : s.HasLastError p) :
    (s.takeLastError p).1 = ErrorCode.lastNumber (lastErrorIn h p) := by
  cases p with
  | none => rw [takeLastError, hs.null]
  | some t =>
    obtain ⟨i, hi⟩ := isDebug_iff.mp (hp t rfl)
    obtain ⟨g, hg, hkept⟩ := hs.guard hi
    simp only [takeLastError, hi, hg, Option.bind_some]
    exact congrArg (ErrorCode.lastNumber ∘ Prod.fst) hkept

/-- Nothing changes of the registry and of what is behind pointers. -/
theorem frame {h' : List Event} (hregistry : s'.registry = s.registry) (hintact : s'.Intact)
    (hguard : ∀ p, s'.guard? p = s.guard? p)
    (htable : ∀ i : Nat, s'.guards[i]?.bind Guard.table = s.guards[i]?.bind Guard.table)
    (hkept : ∀ {t}, s.IsDebug t →
      s'.kept t = some (lastErrorIn h' (some t), policyIn config h' (some t)))
    (hnull : s'.lastError = lastErrorIn h' none) : Tells config s' h' where
  config_eq := by rw [hregistry, hs.config_eq]
  intact := hintact
  served {u i} hi := by
    rw [hregistry] at hi
    obtain ⟨t, ht, hdebug⟩ := hs.served hi
    exact ⟨t, (htable i).trans ht, by rwa [IsDebug, hguard]⟩
  alone t t' i ht ht' := by
    rw [hguard] at ht ht'
    exact hs.alone t t' i ht ht'
  kept hdebug := hkept (by rwa [IsDebug, hguard] at hdebug)
  null := hnull

/-- Something happens that belongs to no debug table. -/
theorem stray (hregistry : s'.registry = s.registry) (htables : SameTables s s')
    (hguards : s'.guards = s.guards) (he : ∀ t, e.lastError? (some t) = none)
    (he' : ∀ t, e.policy? config (some t) = none)
    (hnull : s'.lastError = (e.lastError? none).getD s.lastError) : Tells config s' (e :: h) := by
  refine hs.frame hregistry (hs.intact.of_sameTables htables) htables.guard?_eq
    (fun i => by rw [hguards]) (fun {t} hdebug => ?_) ?_
  · rw [lastErrorIn_cons, policyIn_cons, he, he', Surface.kept, htables.guard?_eq, hguards]
    exact hs.kept hdebug
  · rw [lastErrorIn_cons, hnull, hs.null]

/-- Something happens at the table `t`. -/
theorem modify {t : TableRef} {i : Nat} (hi : s.guard? (some t) = some i)
    (hregistry : s'.registry = s.registry) (htables : SameTables s s') {f : Guard → Guard}
    (hguards : s'.guards = s.guards.modify i f) (hlast : s'.lastError = s.lastError)
    (htable : ∀ g, (f g).table = g.table)
    (hf : ∀ g, (f g).kept = ((e.lastError? (some t)).getD g.lastError,
      (e.policy? config (some t)).getD g.policy))
    (he : ∀ p, p ≠ some t → e.lastError? p = none) (he' : ∀ p, p ≠ some t → e.policy? config p = none) :
    Tells config s' (e :: h) := by
  refine hs.frame hregistry (hs.intact.of_sameTables htables) htables.guard?_eq (fun j => ?_)
    (fun {t'} hdebug => ?_) ?_
  · rw [hguards, Array.getElem?_modify]
    split
    · cases s.guards[j]? <;> simp [htable]
    · rfl
  · rw [kept_modify hs.alone hi htables hguards (F := fun k => ((e.lastError? (some t)).getD k.1,
      (e.policy? config (some t)).getD k.2)) hf, hs.kept hdebug, lastErrorIn_cons, policyIn_cons]
    by_cases ht : t' = t
    · simp [ht]
    · have hne : some t' ≠ some t := by simpa using ht
      simp [ht, he _ hne, he' _ hne]
  · rw [lastErrorIn_cons, he none (by simp), hlast, hs.null, Option.getD_none]

/-- A new context is made, and table `t` is filled for it if there is such a table, which is `L`. -/
theorem fill {g : Guard} {t : TableRef} {L : Prop} (hintact : s'.Intact)
    (hguards : s'.guards = s.guards.push g) (hg : g.kept = (none, config.onInvalid))
    (hconfig : s'.registry.config = s.registry.config) (hlast : s'.lastError = s.lastError)
    (hguard : ∀ t' i, s'.guard? (some t') = some i ↔
      (t' = t ∧ L ∧ i = s.guards.size) ∨ (t' ≠ t ∧ s.guard? (some t') = some i))
    (hlive : s.IsDebug t → L)
    (hfind : ∀ {u i}, s'.registry.find? u = some i → s.registry.find? u = some i ∨
      (i = s.guards.size ∧ g.table = some t ∧ L)) : Tells config s' (.filled (some t) :: h) := by
  have hat (j : Nat) : s'.guards[j]? = if j = s.guards.size then some g else s.guards[j]? := by
    rw [hguards, Array.getElem?_push]
  -- The contexts that were there before are not the new one.
  have hbehind {t' i : Nat} (ht' : s.guard? (some t') = some i) : i < s.guards.size := by
    obtain ⟨g', hg', -⟩ := hs.guard ht'
    exact (Array.getElem?_eq_some_iff.mp hg').1
  have hold {t' : TableRef} (hdebug : s.IsDebug t') : s'.IsDebug t' := by
    obtain ⟨i, hi⟩ := isDebug_iff.mp hdebug
    by_cases ht : t' = t
    · subst ht
      exact isDebug_of_guard? ((hguard t' _).mpr (.inl ⟨rfl, hlive hdebug, rfl⟩))
    · exact isDebug_of_guard? ((hguard t' i).mpr (.inr ⟨ht, hi⟩))
  refine ⟨hconfig.trans hs.config_eq, hintact, ?_, ?_, ?_, ?_⟩
  · -- What was in service has a debug table still; the new context has its own.
    rintro u i hi
    obtain hi | ⟨rfl, htable, hlive⟩ := hfind hi
    · obtain ⟨t', ht', hdebug⟩ := hs.served hi
      refine ⟨t', ?_, hold hdebug⟩
      rw [hat, if_neg, ht']
      rintro rfl
      simp at ht'
    · refine ⟨t, ?_, isDebug_of_guard? ((hguard t _).mpr (.inl ⟨rfl, hlive, rfl⟩))⟩
      rw [hat, if_pos rfl, Option.bind_some, htable]
  · -- No other table leads to the new context.
    rintro t₁ t₂ i h₁ h₂
    obtain ⟨rfl, -, hi⟩ | ⟨-, h₁⟩ := (hguard t₁ i).mp h₁ <;>
      obtain ⟨rfl, -, hi'⟩ | ⟨-, h₂⟩ := (hguard t₂ i).mp h₂
    · rfl
    · exact absurd (hi ▸ hbehind h₂) (Nat.lt_irrefl _)
    · exact absurd (hi' ▸ hbehind h₁) (Nat.lt_irrefl _)
    · exact hs.alone _ _ i h₁ h₂
  · -- The new context keeps nothing yet, and all others keep what they kept.
    rintro t' hdebug
    obtain ⟨i, hi⟩ := isDebug_iff.mp hdebug
    rw [kept_of_guard? hi, hat, lastErrorIn_cons, policyIn_cons]
    obtain ⟨rfl, -, rfl⟩ | ⟨hne, hi⟩ := (hguard t' i).mp hi
    · simp [Event.lastError?, Event.policy?, hg]
    · have hlt := hbehind hi
      have hkept := hs.kept (isDebug_of_guard? hi)
      rw [kept_of_guard? hi] at hkept
      simp [Event.lastError?, Event.policy?, Ne.symm hne, Nat.ne_of_lt hlt, hkept]
  · rw [lastErrorIn_cons, hlast, hs.null]
    rfl

/-- The context behind a table is put in service under it. -/
theorem handOut {t : TableRef} {i : Nat} (hi : s.guard? (some t) = some i)
    {registry : Registry TableRef} (hconfig : registry.config = s.registry.config)
    (hfind : ∀ {u j}, registry.find? u = some j → s.registry.find? u = some j ∨ j = i) :
    Tells config ({ s with registry }.handOut t i) h := by
  have htables : SameTables s ({ s with registry }.handOut t i) := ⟨rfl, rfl⟩
  have hat (j : Nat) : ({ s with registry }.handOut t i).guards[j]? =
      s.guards[j]?.map fun g => if i = j then { g with table := some t } else g := by
    rw [Surface.handOut, modifyGuard, Array.getElem?_modify]
    split
    · rfl
    · simp
  have hnew : ({ s with registry }.handOut t i).guards[i]?.bind Guard.table = some t := by
    obtain ⟨g, hg, -⟩ := hs.guard hi
    rw [hat, hg, Option.map_some, if_pos rfl, Option.bind_some]
  refine ⟨hconfig.trans hs.config_eq, hs.intact.of_sameTables htables, ?_, ?_, ?_, hs.null⟩
  · rintro u j hj
    by_cases hij : j = i
    · subst hij
      exact ⟨t, hnew, htables.isDebug_iff.mpr (isDebug_of_guard? hi)⟩
    · obtain ⟨t', ht', hdebug⟩ := hs.served ((hfind hj).resolve_right hij)
      refine ⟨t', ?_, htables.isDebug_iff.mpr hdebug⟩
      rw [hat, ← ht']
      cases s.guards[j]? with
      | none => rfl
      | some g => rw [Option.map_some, if_neg (Ne.symm hij)]
  · exact fun t₁ t₂ j h₁ h₂ => hs.alone t₁ t₂ j h₁ h₂
  · rintro t' hdebug
    have hkept := kept_modify hs.alone hi htables (f := ({ · with table := some t })) rfl
      (F := id) (fun _ => rfl) t'
    rw [hkept, hs.kept (htables.isDebug_iff.mp hdebug)]
    simp

end Tells

/-- A recorded state is as its history says. Nobody looks at it after the process has stopped. -/
structure Told (config : Config) (w : Recorded) : Prop where
  tells : w.surface.stopped = none → Tells config w.surface w.history
  stopped : (∃ d, w.surface.stopped = some (.fatal d)) ↔ Fatal config [] w.history

theorem note_of_running {w : Recorded} (h : w.surface.stopped = none) (e : Event) :
    w.note e = { w with history := e :: w.history } := by
  rw [note, h]
  rfl

theorem note_of_stopped {w : Recorded} (h : w.surface.stopped ≠ none) (e : Event) : w.note e = w := by
  rw [note, if_pos (Option.isSome_iff_ne_none.mpr h)]

namespace Told

variable {w w' : Recorded} (hw : Told config w)

include hw

theorem not_fatal (hrunning : w.surface.stopped = none) : ¬Fatal config [] w.history := by
  intro hfatal
  obtain ⟨d, hd⟩ := hw.stopped.mpr hfatal
  cases hrunning.symm.trans hd

theorem of_stopped (hstopped : w.surface.stopped ≠ none)
    (hsurface : w'.surface.stopped = w.surface.stopped) (hhistory : w'.history = w.history) :
    Told config w' where
  tells hrunning := absurd (hsurface.symm.trans hrunning) hstopped
  stopped := by rw [hsurface, hhistory, hw.stopped]

/-- An event stops the process or leaves it running, as its history says. -/
theorem event (hrunning : w.surface.stopped = none) (hhistory : w'.history = e :: w.history)
    (hfatal : (∃ d, w'.surface.stopped = some (.fatal d)) ↔ e.IsFatal config w.history)
    (htells : Tells config w'.surface w'.history) : Told config w' where
  tells _ := htells
  stopped := by
    rw [hfatal, hhistory, fatal_cons, List.append_nil, or_iff_left (hw.not_fatal hrunning)]

end Told

theorem stable_told : Stable (Told config) where
  update i f w hw := by
    -- Handles come and go, but nothing that is told of changes.
    refine ⟨fun hrunning => ?_, hw.stopped⟩
    have hs := hw.tells hrunning
    refine hs.frame rfl (hs.intact.of_sameTables ⟨rfl, rfl⟩) (SameTables.guard?_eq ⟨rfl, rfl⟩)
      (fun j => ?_) (fun {t} hdebug => ?_) hs.null
    · refine (congrArg (·.bind Guard.table) (getElem?_guards_update i j f w.surface)).trans ?_
      cases w.surface.guards[j]? with
      | none => rfl
      | some g =>
        rw [Option.map_some, Option.bind_some, Option.bind_some]
        split <;> rfl
    · exact (kept_update i f w.surface t).trans (hs.kept hdebug)
  hosts {w} hosts hw := by
    refine ⟨fun hrunning => ?_, hw.stopped⟩
    have hs := hw.tells hrunning
    have htables : SameTables w.surface { w.surface with hosts } := ⟨rfl, rfl⟩
    exact hs.frame rfl (hs.intact.of_sameTables htables) htables.guard?_eq (fun _ => rfl) hs.kept hs.null
  endless {w} hw := by
    -- This stops the process, but not for a failure.
    by_cases hrunning : w.surface.stopped = none
    · refine ⟨fun h => ?_, ?_⟩
      · simp [stop, hrunning] at h
      · simp [stop, hrunning, hw.not_fatal hrunning]
    · exact hw.of_stopped hrunning (by rw [stop_of_stopped hrunning]) rfl
  badTable {w} hw := by
    by_cases hrunning : w.surface.stopped = none
    · rw [badTable, note_of_running hrunning]
      refine hw.event hrunning rfl (by simp [Surface.badTable, hrunning, Event.IsFatal]) ?_
      exact (hw.tells hrunning).stray rfl ⟨rfl, rfl⟩ rfl (fun _ => rfl) (fun _ => rfl) rfl
    · rw [badTable, note_of_stopped hrunning]
      exact hw.of_stopped hrunning rfl rfl
  done {w p i} hi hw := by
    by_cases hrunning : w.surface.stopped = none
    · rw [note_of_running hrunning]
      refine hw.event hrunning rfl (by simp [hrunning, Event.IsFatal]) ?_
      exact (hw.tells hrunning).stray rfl ⟨rfl, rfl⟩ rfl (fun _ => rfl) (fun _ => rfl) rfl
    · rw [note_of_stopped hrunning]
      exact hw
  failed {w p i} e hi hw := by
    by_cases hrunning : w.surface.stopped = none
    · cases p with
      | none => cases hi
      | some t =>
        have hs := hw.tells hrunning
        obtain ⟨g, hg, hkept⟩ := hs.guard hi
        have hpolicy : g.policy = policyIn config w.history (some t) := congrArg Prod.snd hkept
        rw [failCall, note_of_running hrunning]
        refine hw.event hrunning rfl ?_ ?_
        · rw [failCall_fatal_iff hg e hrunning, hpolicy]
          cases e <;> simp [Event.IsFatal, CallError.debugError?]
        · obtain ⟨stopped, hfail⟩ := failCall_eq w.surface i e
          rw [hfail]
          exact hs.modify (f := ({ · with lastError := some (.ofCallError e) })) hi rfl ⟨rfl, rfl⟩ rfl rfl
            (fun _ => rfl) (fun g => by simp [Event.lastError?, Event.policy?, Guard.kept])
            (fun p hp => by simp [Event.lastError?, Ne.symm hp]) fun p hp => rfl
    · rw [failCall, note_of_stopped hrunning]
      exact hw.of_stopped hrunning (failCall_of_stopped hrunning e) rfl

/-! ### Calls that make and bind tables -/

namespace Told

variable {w : Recorded} (hw : Told config w) (hrunning : w.surface.stopped = none)

include hw hrunning

theorem refused_badTable : Told config ⟨w.surface.badTable, .refused .badTable :: w.history⟩ := by
  have hbad := stable_told.badTable hw
  rwa [badTable, note_of_running hrunning] at hbad

theorem refused_configuration (bound requested : ContextId) :
    Told config ⟨w.surface.failBinding (.configuration bound requested),
      .refused .configuration :: w.history⟩ := by
  have hs := hw.tells hrunning
  refine hw.event hrunning rfl ?_ ?_
  · rw [failBinding_fatal_iff _ hrunning, hs.config_eq]
    rfl
  · obtain ⟨stopped, hfail⟩ := failBinding_eq w.surface (.configuration bound requested)
    rw [hfail]
    exact hs.stray rfl ⟨rfl, rfl⟩ rfl (fun _ => rfl) (fun _ => rfl) rfl

theorem newGuard_kept (u : TableRef) (name : String) (table : Pointer) :
    (w.surface.newGuard u name table).kept = (none, config.onInvalid) := by
  rw [Guard.kept, newGuard, (hw.tells hrunning).config_eq]

/-- A new table that is no debug table. -/
theorem addTable {s' : Surface} {table : OpTable} (hregistry : s'.registry = w.surface.registry)
    (hguards : s'.guards = w.surface.guards)
    (htables : SameTables { w.surface with tables := w.surface.tables.push table } s')
    (hlast : s'.lastError = w.surface.lastError) (hstopped : s'.stopped = w.surface.stopped) :
    Told config ⟨s', w.history⟩ := by
  have hs := hw.tells hrunning
  have hguard (p : Pointer) : s'.guard? p = w.surface.guard? p :=
    (htables.guard?_eq p).trans (guard?_push (fun _ => hs.intact.lt) table p)
  refine ⟨fun _ => hs.frame hregistry ((hs.intact.push table).of_sameTables htables) hguard
    (fun i => by rw [hguards]) (fun {t} hdebug => ?_) (hlast.trans hs.null), by rw [hstopped, hw.stopped]⟩
  rw [Surface.kept, hguard, hguards]
  exact hs.kept hdebug

theorem bind (u : Pointer) : Told config (w.apply (.binding (.bind u))) := by
  have hs := hw.tells hrunning
  cases huniversal : w.surface.universal? u with
  | none =>
    have hbind : w.surface.bind u = (none, w.surface.badTable) := by rw [Surface.bind, huniversal]
    simp only [apply, BindingCall.apply, bindingEvents, hbind, huniversal]
    exact hw.refused_badTable hrunning
  | some served =>
    obtain ⟨u, name⟩ := served
    obtain ⟨rfl, hu⟩ := usable_of_universal? huniversal
    cases hadmission : w.surface.registry.admission u with
    | bound i =>
      -- The table is handed out again, which is nothing new.
      obtain ⟨t, ht, hdebug⟩ := hs.served (Registry.find?_of_bound hadmission)
      have hbind : w.surface.bind (some u) = (some t, w.surface) := by
        simp only [Surface.bind, huniversal, hadmission, ht]
      obtain ⟨j, hj⟩ := isDebug_iff.mp hdebug
      simp only [apply, BindingCall.apply, bindingEvents, hbind, if_pos (lt_of_guard? hj)]
      exact hw
    | refused bound =>
      have hbind : w.surface.bind (some u) = (none, w.surface.failBinding
          (.configuration (universalId bound) (universalId u))) := by
        simp only [Surface.bind, huniversal, hadmission]
      simp only [apply, BindingCall.apply, bindingEvents, hbind, huniversal]
      exact hw.refused_configuration hrunning _ _
    | free =>
      have hbind := bind_of_free huniversal hadmission
      simp only [apply, BindingCall.apply, bindingEvents, hbind, if_neg (Nat.lt_irrefl _)]
      refine hw.event hrunning rfl (by simp [addDebugTable, hrunning, Event.IsFatal]) ?_
      refine hs.fill (L := True) ((hs.intact.addDebugTable _ _).of_sameTables ⟨rfl, rfl⟩) rfl
        (hw.newGuard_kept hrunning u name _) rfl rfl ?_ (fun _ => trivial) ?_
      · intro t' i
        refine guard?_addDebugTable_iff.trans ?_
        rw [OpTable.state?_ofGuard, Option.some.injEq, eq_comm (b := i), true_and]
        refine or_congr_right ⟨fun ht' => ⟨?_, ht'⟩, And.right⟩
        exact Nat.ne_of_lt (lt_of_guard? ht')
      · rintro v i hv
        rw [Registry.find?_insert] at hv
        split at hv
        · cases hv
          exact .inr ⟨rfl, rfl, trivial⟩
        · exact .inl hv

theorem initTable (p u : Pointer) : Told config (w.apply (.binding (.initTable p u))) := by
  have hs := hw.tells hrunning
  have hrefused (h : w.surface.initTable p u = (.refused, w.surface.badTable)) :
      Told config (w.apply (.binding (.initTable p u))) := by
    simp only [apply, BindingCall.apply, bindingEvents, h]
    exact hw.refused_badTable hrunning
  cases p with
  | none => exact hrefused rfl
  | some t =>
    cases huniversal : w.surface.universal? u with
    | none => exact hrefused (by simp only [Surface.initTable, huniversal])
    | some served =>
      obtain ⟨u, name⟩ := served
      have hinit := initTable_eq (t := t) huniversal
      simp only [apply, BindingCall.apply, bindingEvents, hinit]
      refine hw.event hrunning rfl (by simp [Surface.fill, modifyTable, hrunning, Event.IsFatal]) ?_
      refine hs.fill (L := t < w.surface.tables.size)
        ((hs.intact.fill t _ _).of_sameTables ⟨rfl, rfl⟩) rfl (hw.newGuard_kept hrunning u name none)
        rfl rfl ?_ ?_ .inl
      · intro t' i
        refine guard?_fill_iff.trans ?_
        rw [OpTable.state?_ofGuard, Option.some.injEq, eq_comm (b := i)]
      · intro hdebug
        obtain ⟨i, hi⟩ := isDebug_iff.mp hdebug
        exact lt_of_guard? hi

theorem install (p : Pointer) : Told config (w.apply (.binding (.install p))) := by
  have hs := hw.tells hrunning
  have hrefused (hp : w.surface.guard? p = none)
      (h : w.surface.install p = (.refused, w.surface.badTable)) :
      Told config (w.apply (.binding (.install p))) := by
    simp only [apply, BindingCall.apply, bindingEvents, h, hp]
    exact hw.refused_badTable hrunning
  cases p with
  | none => exact hrefused rfl rfl
  | some t =>
    cases hi : w.surface.guard? (some t) with
    | none => exact hrefused hi (by simp only [Surface.install, hi])
    | some i =>
      have hfailed (bound requested : ContextId) (h : w.surface.install (some t) = (.refused,
          w.surface.failBinding (.configuration bound requested))) :
          Told config (w.apply (.binding (.install (some t)))) := by
        simp only [apply, BindingCall.apply, bindingEvents, h, hi]
        exact hw.refused_configuration hrunning bound requested
      have hdone (registry : Registry TableRef) (hconfig : registry.config = w.surface.registry.config)
          (hfind : ∀ {u j}, registry.find? u = some j → w.surface.registry.find? u = some j ∨ j = i)
          (h : w.surface.install (some t) = (.done, { w.surface with registry }.handOut t i)) :
          Told config (w.apply (.binding (.install (some t)))) := by
        simp only [apply, BindingCall.apply, bindingEvents, h]
        exact ⟨fun _ => hs.handOut hi hconfig hfind, hw.stopped⟩
      cases hadmission :
          w.surface.registry.admission ((w.surface.guards[i]?.map Guard.universal).getD 0) with
      | bound j =>
        by_cases hji : j = i
        · refine hdone w.surface.registry rfl .inl ?_
          simp only [Surface.install, hi, hadmission, if_pos hji]
        · refine hfailed (w.surface.guardId j) (w.surface.guardId i) ?_
          simp only [Surface.install, hi, hadmission, if_neg hji]
      | refused bound =>
        refine hfailed (universalId bound)
          (universalId ((w.surface.guards[i]?.map Guard.universal).getD 0)) ?_
        simp only [Surface.install, hi, hadmission]
      | free =>
        refine hdone (w.surface.registry.insert ((w.surface.guards[i]?.map Guard.universal).getD 0) i)
          rfl (fun {u j} hj => ?_) (by simp only [Surface.install, hi, hadmission])
        rw [Registry.find?_insert] at hj
        split at hj
        · exact .inr (Option.some.inj hj).symm
        · exact .inl hj

theorem binding (c : BindingCall) : Told config (w.apply (.binding c)) := by
  cases c with
  | newHost => exact hw.addTable hrunning rfl rfl ⟨rfl, rfl⟩ rfl rfl
  | newMemory => exact hw.addTable hrunning rfl rfl ⟨rfl, rfl⟩ rfl rfl
  | bind u => exact hw.bind hrunning u
  | initTable p u => exact hw.initTable hrunning p u
  | install p => exact hw.install hrunning p

/-! ### Last errors and policies themselves -/

theorem asked (p : Pointer) : Told config (w.apply (.lastError p)) := by
  have hs := hw.tells hrunning
  cases p with
  | none =>
    refine hw.event hrunning rfl (by simp [apply, takeLastError, hrunning, Event.IsFatal]) ?_
    exact hs.stray rfl ⟨rfl, rfl⟩ rfl (fun _ => rfl) (fun _ => rfl) rfl
  | some t =>
    cases hi : w.surface.guard? (some t) with
    | none =>
      have htake : w.surface.takeLastError (some t) = (ErrorCode.badTable.number, w.surface) := by
        rw [takeLastError, hi]
      simp only [apply, htake]
      refine hw.event hrunning rfl (by simp [hrunning, Event.IsFatal]) ?_
      -- The event is about a table that has no last error.
      refine hs.frame rfl hs.intact (fun _ => rfl) (fun _ => rfl) (fun {t'} hdebug => ?_) ?_
      · have hne : some t ≠ some t' := by
          rintro ⟨⟩
          rw [IsDebug, hi] at hdebug
          cases hdebug
        rw [hs.kept hdebug, lastErrorIn_cons, policyIn_cons]
        simp [Event.lastError?, Event.policy?, hne]
      · rw [hs.null, lastErrorIn_cons]
        rfl
    | some i =>
      have htake : (w.surface.takeLastError (some t)).2 =
          w.surface.modifyGuard i ({ · with lastError := none }) := by rw [takeLastError, hi]
      simp only [apply, htake]
      refine hw.event hrunning rfl (by simp [modifyGuard, hrunning, Event.IsFatal]) ?_
      exact hs.modify (f := ({ · with lastError := none })) hi rfl ⟨rfl, rfl⟩ rfl rfl (fun _ => rfl)
        (fun g => by simp [Event.lastError?, Event.policy?, Guard.kept])
        (fun q hq => by simp [Event.lastError?, Ne.symm hq]) fun q hq => rfl

theorem setPolicy (p : Pointer) (n : Nat) : Told config (w.apply (.setPolicy p n)) := by
  have hs := hw.tells hrunning
  have hrefused (h : w.surface.setPolicy p n = (.refused, w.surface)) :
      Told config (w.apply (.setPolicy p n)) := by
    simp only [apply, h]
    exact hw
  cases hi : w.surface.guard? p with
  | none => exact hrefused (by simp only [Surface.setPolicy, hi])
  | some i =>
    cases hn : policy? n with
    | none => exact hrefused (by simp only [Surface.setPolicy, hi, hn])
    | some new =>
      cases p with
      | none => cases hi
      | some t =>
        have hset : w.surface.setPolicy (some t) n =
            (.done, w.surface.modifyGuard i ({ · with policy := new })) := by
          simp only [Surface.setPolicy, hi, hn]
        simp only [apply, hset, hn]
        refine hw.event hrunning rfl (by simp [modifyGuard, hrunning, Event.IsFatal]) ?_
        exact hs.modify (f := ({ · with policy := new })) hi rfl ⟨rfl, rfl⟩ rfl rfl (fun _ => rfl)
          (fun g => by simp [Event.lastError?, Event.policy?, Guard.kept])
          (fun q hq => rfl) fun q hq => by simp [Event.policy?, Ne.symm hq]

omit hrunning in
theorem step (c : ProcessCall) : Told config (w.step c) := by
  unfold Recorded.step
  split
  · exact hw
  · rename_i hstopped
    have hrunning : w.surface.stopped = none := by simpa using hstopped
    exact stable_told.apply hw (hw.binding hrunning) (hw.asked hrunning) (hw.setPolicy hrunning) c

end Told

theorem told_new (config : Config) : Told config ⟨.new config, []⟩ := by
  have hguard (p : Pointer) : (new config).guard? p = none := by cases p <;> rfl
  refine ⟨fun _ => ⟨rfl, intact_new config, ?_, ?_, ?_, rfl⟩, by simp [new, not_fatal_nil]⟩
  · rintro u i hi
    cases hi
  · rintro t t' i ht
    rw [hguard] at ht
    cases ht
  · rintro t hdebug
    rw [IsDebug, hguard] at hdebug
    cases hdebug

theorem told_run (config : Config) (calls : List ProcessCall) : Told config (run config calls) := by
  have hfold : ∀ w : Recorded, Told config w → Told config (calls.foldl step w) := by
    induction calls with
    | nil => exact fun _ => id
    | cons c calls ih => exact fun w hw => ih _ (hw.step c)
  exact hfold _ (told_new config)

/-! ### What a call adds to the history -/

theorem suffix_note (e : Event) {w : Recorded} (hw : h <:+ w.history) : h <:+ (w.note e).history := by
  unfold note
  split
  · exact hw
  · exact hw.trans (List.suffix_cons e _)

/-- What happened stays written down. -/
theorem stable_suffix (h : List Event) : Stable fun w => h <:+ w.history where
  update _ _ _ hw := hw
  hosts _ hw := hw
  endless hw := hw
  badTable hw := suffix_note _ hw
  done _ hw := suffix_note _ hw
  failed _ _ hw := suffix_note _ hw

theorem suffix_step (w : Recorded) (c : ProcessCall) : w.history <:+ (w.step c).history := by
  unfold step
  split
  · exact List.suffix_rfl
  · refine (stable_suffix w.history).apply List.suffix_rfl (fun c => List.suffix_append _ _)
      (fun p => List.suffix_cons _ _) (fun p n => ?_) c
    rw [apply]
    split
    · exact List.suffix_cons _ _
    · exact List.suffix_rfl

theorem onGuard_of_none {α : Type} {w : Recorded} (hp : w.surface.guard? p = none) (onFail : α)
    (f : Nat → Recorded → Except CallError α × Recorded) : onGuard p onFail f w = (onFail, w.badTable) := by
  rw [onGuard, hp]

theorem onGuard_of_ok {α : Type} {w w' : Recorded} {i : Nat} (hi : w.surface.guard? p = some i)
    (onFail : α) {f : Nat → Recorded → Except CallError α × Recorded} {a : α}
    (hf : f i w = (.ok a, w')) : onGuard p onFail f w = (a, w'.note (.ended p none)) := by
  rw [onGuard, hi]
  simp only [hf]

theorem onGuard_of_error {α : Type} {w w' : Recorded} {i : Nat} (hi : w.surface.guard? p = some i)
    (onFail : α) {f : Nat → Recorded → Except CallError α × Recorded} {e : CallError}
    (hf : f i w = (.error e, w')) : onGuard p onFail f w = (onFail, w'.failCall p i e) := by
  rw [onGuard, hi]
  simp only [hf]

/-- The last that happens in a call by pointer is that it ends, with the answer of the debug
context. -/
theorem history_through {w : Recorded} {i : Nat} (hi : w.surface.guard? p = some i) (c : GuardCall)
    (hrunning : (w.through p c).2.surface.stopped = none) : ∃ forwarded,
      (w.through p c).2.history =
        .ofAnswer p (c.ask (Surface.context i) (c.universal w.surface i) w.surface).1 ::
          (forwarded ++ w.history) := by
  have hstable := stable_suffix w.history
  obtain ⟨hanswer, hrecords⟩ :=
    hstable.mirrors_ask (hstable.alike_universal c i w _) c ⟨rfl, ⟨rfl, rfl⟩, List.suffix_rfl⟩
  obtain ⟨forwarded, hforwarded⟩ := hrecords.holds
  rw [hanswer]
  refine ⟨forwarded, ?_⟩
  cases hq : c.ask (context i) (w.universal i c) w with
  | mk a w' =>
    rw [hq] at hforwarded
    cases a with
    | ok a =>
      rw [through, onGuard_of_ok hi c.failure hq] at hrunning ⊢
      rw [note_surface] at hrunning
      rw [note_of_running hrunning, hforwarded]
      rfl
    | error e =>
      rw [through, onGuard_of_error hi c.failure hq] at hrunning ⊢
      -- A process that had stopped before the call failed would not run now.
      have hrunning' : w'.surface.stopped = none := by
        rw [failCall_surface] at hrunning
        refine Classical.byContradiction fun hstopped => ?_
        exact hstopped ((failCall_of_stopped hstopped e).symm.trans hrunning)
      rw [failCall, note_of_running hrunning', hforwarded]
      rfl

/-- A call through a debug table is a call by the pointer to it. -/
theorem call_eq_through {w : Recorded} {t : TableRef} {i : Nat} (hintact : w.surface.Intact)
    (hi : w.surface.guard? (some t) = some i) (r : Request) :
    (w.call t r).2 = (w.through (some t) (.call r)).2 := by
  obtain ⟨n, hn⟩ := w.surface.exists_depth_eq
  have hcall : w.call t r = callGuard (callWithin (n + 1)) (some t) r w := by
    rw [call, hn, callWithin, hintact.functions hi]
  have huniversal : w.universal i (.call r) = universalOf (callWithin (n + 1)) i := by
    rw [universal, hn]
    rfl
  rw [hcall, callGuard, through]
  cases hq : DebugContext.respond (context i) (universalOf (callWithin (n + 1)) i) r w with
  | mk a w' =>
    cases a with
    | ok a =>
      rw [onGuard_of_ok hi _ (by rw [hq]; rfl),
        onGuard_of_ok hi _ (by rw [huniversal, GuardCall.ask, hq]; rfl)]
    | error e =>
      rw [onGuard_of_error hi _ (by rw [hq]; rfl),
        onGuard_of_error hi _ (by rw [huniversal, GuardCall.ask, hq]; rfl)]

/-! ### Runs -/

/-- What callers are told of failures in a state with its history, and what stops the process. -/
structure ErrorLaw (config : Config) (w : Recorded) : Prop where
  /-- What the last error is, the history says. -/
  reads : ∀ {p}, w.surface.HasLastError p →
    (w.surface.takeLastError p).1 = ErrorCode.lastNumber (lastErrorIn w.history p)
  /-- Calls that succeed, and what happens elsewhere, do not change it. -/
  keeps : ∀ {p c new}, w.surface.HasLastError p → (w.step c).surface.HasLastError p →
    (w.step c).surface.stopped = none → (w.step c).history = new ++ w.history →
    (∀ e ∈ new, e.lastError? p = none) →
    ((w.step c).surface.takeLastError p).1 = (w.surface.takeLastError p).1
  /-- To read it resets it and no other. -/
  resets : ∀ {p q}, w.surface.HasLastError p → w.surface.HasLastError q →
    ((w.surface.takeLastError p).2.takeLastError q).1 =
      if p = q then 0 else (w.surface.takeLastError q).1
  /-- A pointer that leads nowhere has no last error, and that it was passed is not noted. -/
  strayRead : ∀ {p}, ¬w.surface.HasLastError p →
    w.surface.takeLastError p = (ErrorCode.badTable.number, w.surface)
  /-- Nor has it a policy. -/
  strayPolicy : ∀ {p}, w.surface.guard? p = none → ∀ n, w.surface.setPolicy p n = (.refused, w.surface)
  /-- All other calls by such a pointer are refused. -/
  strayCall : ∀ {p}, w.surface.guard? p = none → ∀ c,
    (w.step (.guard p c)).history = .refused .badTable :: w.history
  /-- A binding call is written down as what its caller sees of it. -/
  bindings : ∀ c, (w.step (.binding c)).history = bindingEvents w.surface c ++ w.history
  /-- A call on a debug context ends in it last, with the answer that the context gives. -/
  ends : ∀ {p i} (c : GuardCall), w.surface.guard? p = some i →
    (w.step (.guard p c)).surface.stopped = none → ∃ forwarded,
      (w.step (.guard p c)).history =
        .ofAnswer p (c.ask (Surface.context i) (c.universal w.surface i) w.surface).1 ::
          (forwarded ++ w.history)
  /-- So does a call through its table. -/
  trampoline : ∀ {t}, w.surface.IsDebug t → ∀ r, w.step (.table t r) = w.step (.guard (some t) (.call r))
  /-- A call stops the process for a failure if and only if something happens that does. -/
  stops : ∀ c, ∃ new, (w.step c).history = new ++ w.history ∧
    ((∃ d, (w.step c).surface.stopped = some (.fatal d)) ↔ Fatal config w.history new)

theorem Told.errorLaw {w : Recorded} (hw : Told config w) (hrunning : w.surface.stopped = none) :
    ErrorLaw config w := by
  have hs := hw.tells hrunning
  have hstep (c : ProcessCall) : w.step c = w.apply c := by simp [Recorded.step, hrunning]
  exact
  { reads := hs.reads
    keeps := fun {p c new} hp hp' hrunning' hnew hquiet => by
      have hread := ((hw.step c).tells hrunning').reads hp'
      rw [hread, hs.reads hp, hnew, lastErrorIn_append hquiet]
    resets := fun {p q} hp hq => by
      -- The state after the first question is as its history says, and asking is what was added to it.
      have hasked := hw.asked hrunning p
      obtain ⟨guards, lastError, htake⟩ := takeLastError_eq p w.surface
      have hrunning' : (w.surface.takeLastError p).2.stopped = none := by rw [htake, hrunning]
      have hq' : (w.surface.takeLastError p).2.HasLastError q := fun t ht =>
        (SameTables.isDebug_iff (by rw [htake]; exact ⟨rfl, rfl⟩)).mpr (hq t ht)
      have hread := (hasked.tells hrunning').reads hq'
      refine hread.trans ?_
      rw [hs.reads hq]
      refine (congrArg ErrorCode.lastNumber lastErrorIn_cons).trans ?_
      simp only [Event.lastError?]
      split <;> rfl
    strayRead := fun {p} hp => by
      cases p with
      | none => exact absurd (by simp [HasLastError]) hp
      | some t =>
        have ht : ¬w.surface.IsDebug t := fun ht => hp fun t' ht' => Option.some.inj ht' ▸ ht
        exact (turnsAway (Option.not_isSome_iff_eq_none.mp ht)).takeLastError (by simp)
    strayPolicy := fun hp => (turnsAway hp).setPolicy
    strayCall := fun hp c => by
      rw [hstep, apply, through, onGuard_of_none hp, badTable, note_of_running hrunning]
    bindings := fun c => by rw [hstep]; rfl
    ends := fun c hi hstopped => by
      rw [hstep] at hstopped ⊢
      exact history_through hi c hstopped
    trampoline := fun {t} ht r => by
      obtain ⟨i, hi⟩ := isDebug_iff.mp ht
      rw [hstep, hstep]
      exact call_eq_through hs.intact hi r
    stops := fun c => by
      -- Nothing before the call stopped the process, so what stops it is new.
      obtain ⟨new, hnew⟩ := suffix_step w c
      refine ⟨new, hnew.symm, ?_⟩
      rw [(hw.step c).stopped, ← hnew, fatal_append, or_iff_left (hw.not_fatal hrunning)] }

/-- After any calls of a process that runs still, callers are told of failures as its history says,
and the next call stops it if a check fails, in the debug context that is called or in one that the
call is forwarded to, where the policy is to stop. -/
theorem last_error_law (config : Config) (calls : List ProcessCall) :
    let w := run config calls
    w.surface = ProcessCall.run (.new config) calls ∧
      (w.surface.stopped = none → ErrorLaw config w) :=
  ⟨run_surface config calls, (told_run config calls).errorLaw⟩

/-- The context behind table 2 calls through table 1, which refuses a handle that it never issued.
So the call fails twice, and each table has its own last error. Table 1 would now stop the process.
-/
theorem last_error_law_stacked :
    let calls : List ProcessCall := [.binding (.newHost none Schema.tableVersion [] .none),
      .binding .newMemory, .binding (.initTable (some 1) (some 0)), .setPolicy (some 1) 1,
      .binding .newMemory, .binding (.initTable (some 2) (some 1)), .setPolicy (some 2) 1,
      .guard (some 2) (.openHandle ⟨7⟩), .table 2 (.dup ⟨0x10000001⟩), .setPolicy (some 1) 0]
    let w := run .default calls
    w.surface.stopped = none ∧ ErrorLaw .default w ∧
      lastErrorIn w.history (some 1) = some .invalidHandle ∧
      lastErrorIn w.history (some 2) = some .call ∧
      ((w.surface.takeLastError (some 1)).2.takeLastError (some 2)).1 = 300 ∧
      (w.step (.table 2 (.dup ⟨0x10000001⟩))).surface.stopped.isSome := by
  intro calls w
  have hrunning : w.surface.stopped = none := Option.isNone_iff_eq_none.mp (by decide +kernel)
  have hlaw := (last_error_law .default calls).2 hrunning
  have hlower : w.surface.HasLastError (some 1) := by
    rintro t ⟨⟩
    exact isDebug_of_guard? (i := 0) (by decide +kernel)
  have hupper : w.surface.HasLastError (some 2) := by
    rintro t ⟨⟩
    exact isDebug_of_guard? (i := 1) (by decide +kernel)
  have hcode : lastErrorIn w.history (some 2) = some .call := by decide +kernel
  refine ⟨hrunning, hlaw, by decide +kernel, hcode, ?_, by decide +kernel⟩
  rw [hlaw.resets hlower hupper, hlaw.reads hupper, hcode]
  rfl

end Recorded

end HandleGuard.Foreign
