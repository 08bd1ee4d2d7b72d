import HandleGuard.Proofs.Context.Forest

/-!
# Runs of a process

A process holds a forest of contexts and any number of registries. It makes contexts, binds and
installs them, calls any of them and turns their dials, in any order.

* `Process.apply_step`   what an operation does to the forest
* `Process.run_grown`    what is known of each context after a run
* `Process.run_keeps`    contexts keep their identities
-/

namespace HandleGuard

/-- Something that is done to a debug context and needs no check. -/
inductive Dial where
  | setClosedQueueMax (max : Nat)
  | newGeneration
  | setHook (hook : Option (List HookAction))
  | takeHookLog
  | takeDiagnostics
deriving DecidableEq, Repr

/-- The context with the dial turned. -/
def Dial.turn (d : DebugContext) : Dial → DebugContext
  | setClosedQueueMax max => { d with table := d.table.setClosedQueueMax max }
  | newGeneration => d.newGeneration.2
  | setHook hook => d.setHook hook
  | takeHookLog => d.takeHookLog.2
  | takeDiagnostics => d.takeDiagnostics.2

/-- The contexts of a process, and its registries. -/
structure Process where
  forest : Forest
  registries : Array (Registry ContextId)

/-- An operation of a process. Contexts and registries go by number. -/
inductive ProcessOp where
  | newRegistry (config : Config)
  | newStore (name : String)
  | newContext (universal : ContextRef) (config : Config)
  | newContextLike (r : Nat) (universal : ContextRef)
  | bind (r : Nat) (universal : ContextRef)
  | startModule (r : Nat) (universal : ContextRef)
  | install (r i : Nat)
  | call (c : ContextRef) (request : Request)
  | openHandle (i : Nat) (uh : Handle)
  | resolve (i : Nat) (h : Handle)
  | closeHandle (i : Nat) (h : Handle)
  | turn (i : Nat) (dial : Dial)
deriving DecidableEq, Repr

namespace Process

/-- A process before it has done anything. -/
def empty : Process := ⟨.empty, #[]⟩

/-- Uses registry `r`, if there is one. -/
def onRegistry (p : Process) (r : Nat)
    (f : Registry ContextId → Forest → Registry ContextId × Forest) : Process :=
  match p.registries[r]? with
  | none => p
  | some registry =>
    let (registry, forest) := f registry p.forest
    ⟨forest, p.registries.setIfInBounds r registry⟩

/-- The process after an operation. Nothing can be done with a context that was not made. -/
def apply (p : Process) : ProcessOp → Process
  | .newRegistry config => { p with registries := p.registries.push (.new config) }
  | .newStore name => { p with forest := (p.forest.addStore name).2 }
  | .newContext universal config =>
    if p.forest.has universal then { p with forest := (p.forest.addContext universal config).2 }
    else p
  | .newContextLike r universal =>
    if p.forest.has universal then
      p.onRegistry r fun registry s => (registry, (Forest.addContextLike registry universal s).2)
    else p
  | .bind r universal =>
    if p.forest.has universal then
      p.onRegistry r fun registry s => (Forest.bind registry universal s).2
    else p
  | .startModule r universal =>
    if p.forest.has universal then
      p.onRegistry r fun registry s => (BuiltinModule.debug.start registry universal s).2
    else p
  | .install r i =>
    if p.forest.has (.debug i) then
      p.onRegistry r fun registry s => ((Forest.install registry i s).2, s)
    else p
  | .call c request => { p with forest := (Forest.respond c request p.forest).2 }
  | .openHandle i uh => { p with forest := (Forest.openHandle i uh p.forest).2 }
  | .resolve i h => { p with forest := (Forest.resolve i h p.forest).2 }
  | .closeHandle i h => { p with forest := (Forest.closeHandle i h p.forest).2 }
  | .turn i dial => { p with forest := (Forest.context i).modify dial.turn p.forest }

/-- The process after a run. -/
def run (p : Process) (ops : List ProcessOp) : Process := ops.foldl apply p

@[simp] theorem run_nil (p : Process) : p.run [] = p := rfl

@[simp] theorem run_cons (p : Process) (op : ProcessOp) (ops : List ProcessOp) :
    p.run (op :: ops) = (p.apply op).run ops := rfl

theorem run_append (p : Process) (ops ops' : List ProcessOp) :
    p.run (ops ++ ops') = (p.run ops).run ops' := List.foldl_append

end Process

theorem DebugContext.Evolves.turn (dial : Dial) (d : DebugContext) : d.Evolves (dial.turn d) := by
  cases dial with
  | setClosedQueueMax max => exact ⟨[.setClosedQueueMax max], _, _, _, rfl⟩
  | newGeneration => exact ⟨[.newGeneration], _, _, _, rfl⟩
  | setHook hook => exact ⟨[], _, _, _, rfl⟩
  | takeHookLog => exact ⟨[], _, _, _, rfl⟩
  | takeDiagnostics => exact ⟨[], _, _, _, rfl⟩

namespace Process

/-- What is done with a registry happens to the forest, or nothing does. -/
private theorem onRegistry_step {p : Process} {r : Nat}
    {f : Registry ContextId → Forest → Registry ContextId × Forest}
    (hf : ∀ registry, p.forest.Step (f registry p.forest).2) :
    p.forest.Step (p.onRegistry r f).forest := by
  rw [onRegistry]
  split
  · exact .evolve (.refl p.forest)
  · exact hf _

private theorem guarded_step {p p' : Process} {b : Bool} (h : b → p.forest.Step p'.forest) :
    p.forest.Step (if b then p' else p).forest := by
  cases b with
  | true => exact h rfl
  | false => exact .evolve (.refl p.forest)

private theorem bind_step {s : Forest} {universal : ContextRef} (hu : s.has universal)
    (registry : Registry ContextId) : s.Step (Forest.bind registry universal s).2.2 := by
  rw [Forest.bind]
  split
  · exact .evolve (.refl s)
  · exact .evolve (.refl s)
  · exact .context hu registry.config

/-- What an operation does to the forest. -/
theorem apply_step (p : Process) (op : ProcessOp) : p.forest.Step (p.apply op).forest := by
  cases op with
  | newRegistry config => exact .evolve (.refl p.forest)
  | newStore name => exact .store name
  | newContext universal config => exact guarded_step fun hu => .context hu config
  | newContextLike r universal =>
    exact guarded_step fun hu => onRegistry_step fun registry => .context hu registry.config
  | bind r universal => exact guarded_step fun hu => onRegistry_step (bind_step hu)
  | startModule r universal => exact guarded_step fun hu => onRegistry_step (bind_step hu)
  | install r i => exact guarded_step fun _ => onRegistry_step fun _ => .evolve (.refl p.forest)
  | call c request => exact .evolve (Forest.respond_evolves c request p.forest)
  | openHandle i uh =>
    exact .evolve ((Forest.Evolves.framed (Forest.universalOf_evolves i) i).openHandle uh p.forest)
  | resolve i h =>
    exact .evolve ((Forest.Evolves.framed (Forest.universalOf_evolves i) i).resolve h p.forest)
  | closeHandle i h =>
    exact .evolve ((Forest.Evolves.framed (Forest.universalOf_evolves i) i).closeHandle h p.forest)
  | turn i dial => exact .evolve (Forest.Evolves.modify (DebugContext.Evolves.turn dial) i p.forest)

theorem run_grown {p : Process} (hp : p.forest.Grown) (ops : List ProcessOp) :
    (p.run ops).forest.Grown := by
  induction ops generalizing p with
  | nil => exact hp
  | cons op ops ih => exact ih ((apply_step p op).grown hp)

theorem run_keeps (p : Process) (ops : List ProcessOp) :
    p.forest.Keeps (p.run ops).forest := by
  induction ops generalizing p with
  | nil => exact fun _ hc => ⟨hc, rfl⟩
  | cons op ops ih =>
    intro c hc
    obtain ⟨hc', hid⟩ := (apply_step p op).keeps c hc
    obtain ⟨hc'', hid'⟩ := ih (p.apply op) c hc'
    exact ⟨hc'', hid'.trans hid⟩

/-- A context keeps its place, and evolves. -/
theorem run_context_stays (p : Process) (ops : List ProcessOp) {i : Nat} {c : AttachedContext}
    (hc : p.forest.contexts[i]? = some c) :
    ∃ c', (p.run ops).forest.contexts[i]? = some c' ∧ c.context.Evolves c'.context := by
  induction ops generalizing p c with
  | nil => exact ⟨c, hc, .refl c.context⟩
  | cons op ops ih =>
    obtain ⟨c', hc', -, hevolves⟩ := (apply_step p op).context_stays hc
    obtain ⟨c'', hc'', hevolves'⟩ := ih (p.apply op) hc'
    exact ⟨c'', hc'', hevolves.trans hevolves'⟩

theorem empty_grown : empty.forest.Grown := by
  have hnone (i : Nat) : empty.forest.contexts[i]? = none := Array.getElem?_empty
  refine ⟨fun hc => ?_, fun _ _ _ hc => ?_, fun _ _ _ _ _ hc => ?_⟩ <;>
    exact absurd (hc.symm.trans (hnone _)) (by simp)

end Process

end HandleGuard
