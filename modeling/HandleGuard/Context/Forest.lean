import HandleGuard.Context.Calls
import HandleGuard.Leak
import HandleGuard.Store

/-!
# Forests of contexts

A forest holds object stores, its roots, and debug contexts. Each debug context stands before a
store or before a debug context made earlier, so contexts may be stacked and calls are passed down
to a root in the end. Identities count all contexts from one in the order in which they are made,
and tags count the debug contexts from zero.

* `addStore`, `addContext`: make a context
* `respond`: the answer of any context to a call
* `openHandle`, `resolve`, `closeHandle`: the checked operations of a debug context
-/

namespace HandleGuard

/-- One of the contexts of a forest. -/
inductive ContextRef where
  | store (i : Nat)
  | debug (i : Nat)
deriving DecidableEq, Inhabited, Repr

/-- An object store as the root of a tree of contexts. -/
structure NamedStore where
  id : ContextId
  name : String
  store : ObjectStore
deriving Inhabited, Repr

/-- A debug context with the context it stands before. -/
structure AttachedContext where
  context : DebugContext
  universal : ContextRef
deriving Inhabited

/-- Object stores and the debug contexts before them, in the order in which they were made. -/
structure Forest where
  stores : Array NamedStore
  contexts : Array AttachedContext
deriving Inhabited

namespace Forest

/-- A forest without contexts. -/
def empty : Forest := ⟨#[], #[]⟩

/-- The identity of the next context. -/
def nextId (s : Forest) : ContextId := ⟨UInt64.ofNat (s.stores.size + s.contexts.size + 1)⟩

/-- The identity of a context. -/
def idOf (s : Forest) : ContextRef → ContextId
  | .store i => (s.stores[i]?.map NamedStore.id).getD default
  | .debug i => (s.contexts[i]?.map (·.context.id)).getD default

/-- The name of a context. -/
def nameOf (s : Forest) : ContextRef → String
  | .store i => (s.stores[i]?.map NamedStore.name).getD ""
  | .debug i => (s.contexts[i]?.map (·.context.name)).getD ""

/-- Makes an empty object store. -/
def addStore (s : Forest) (name : String) : Nat × Forest :=
  (s.stores.size, { s with stores := s.stores.push ⟨s.nextId, name, .empty⟩ })

/-- Makes a debug context before `universal`. -/
def addContext (s : Forest) (universal : ContextRef) (config : Config) : Nat × Forest :=
  let context :=
    DebugContext.new s.nextId s.contexts.size (s.idOf universal) (s.nameOf universal) config
  (s.contexts.size, { s with contexts := s.contexts.push ⟨context, universal⟩ })

/-- Debug context `i` of a forest. -/
def context (i : Nat) : Focus Forest where
  update f s :=
    let c := s.contexts[i]?.getD default
    let (a, context) := f c.context
    (a, { s with contexts := s.contexts.setIfInBounds i { c with context } })

/-- The answer to a call on something that is no context. -/
def noContext : CallError := .call 0 "no such context"

/-- How high a context may be stacked: contexts stand before lower ones. -/
def height : ContextRef → Nat
  | .store _ => 0
  | .debug i => i + 1

/-- Answers a call on one of the contexts. -/
def respond (c : ContextRef) : Universal Forest := fun r s =>
  match c with
  | .store i =>
    match s.stores[i]? with
    | none => (.error noContext, s)
    | some root =>
      let (a, store) := root.store.respond r
      (a, { s with stores := s.stores.setIfInBounds i { root with store } })
  | .debug i =>
    match s.contexts[i]? with
    | none => (.error noContext, s)
    | some c =>
      if height c.universal < height (.debug i) then
        DebugContext.respond (context i) (respond c.universal) r s
      else (.error noContext, s)
termination_by height c

/-- The context that debug context `i` stands before. -/
def universalOf (i : Nat) : Universal Forest := fun r s =>
  match s.contexts[i]? with
  | none => (.error noContext, s)
  | some c => respond c.universal r s

/-- Issues a handle of debug context `i` for `uh`. -/
def openHandle (i : Nat) (uh : Handle) (s : Forest) : Except DebugError Handle × Forest :=
  DebugContext.openHandle (context i) (universalOf i) uh s

/-- The universal handle that `h` stands for in debug context `i`. -/
def resolve (i : Nat) (h : Handle) (s : Forest) : Except DebugError Handle × Forest :=
  DebugContext.resolve (context i) (universalOf i) h s

/-- Closes `h` in debug context `i` and nowhere else. -/
def closeHandle (i : Nat) (h : Handle) (s : Forest) : Except DebugError Handle × Forest :=
  DebugContext.closeHandle (context i) (universalOf i) h s

end Forest

end HandleGuard
