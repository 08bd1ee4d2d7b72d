import HandleGuard.Context.Forest
import HandleGuard.Registry

/-!
# Binding debug contexts to universal contexts

A registry hands out one debug context for each universal context it serves: `bind` finds it or
makes it, `install` puts a context that was made before in its place. A module that is linked into
its host is started by a call of its `initialize`, which binds.
-/

namespace HandleGuard.Forest

/-- The debug context that serves `universal`, made on first use. -/
def bind (registry : Registry ContextId) (universal : ContextRef) (s : Forest) :
    Except DebugError Nat × Registry ContextId × Forest :=
  let id := s.idOf universal
  match registry.admission id with
  | .bound i => (.ok i, registry, s)
  | .refused bound => (.error (.configuration bound id), registry, s)
  | .free =>
    let (i, s) := s.addContext universal registry.config
    (.ok i, registry.insert id i, s)

/-- Puts debug context `i` in service for its universal context. Nothing changes when it already
is, and nothing may when another one is. -/
def install (registry : Registry ContextId) (i : Nat) (s : Forest) :
    Except DebugError Nat × Registry ContextId :=
  let id := ((context i).get s).universalId
  match registry.admission id with
  | .bound j =>
    if j = i then (.ok i, registry)
    else (.error (.configuration (s.idOf (.debug j)) (s.idOf (.debug i))), registry)
  | .refused bound => (.error (.configuration bound id), registry)
  | .free => (.ok i, registry.insert id i)

/-- A debug context with the settings of a registry, which does not come to know it. -/
def addContextLike (registry : Registry ContextId) (universal : ContextRef) (s : Forest) :
    Nat × Forest :=
  s.addContext universal registry.config

end HandleGuard.Forest

namespace HandleGuard

/-- A module that is linked into its host. -/
structure BuiltinModule where
  name : String
  /-- Starts the module for a universal context. -/
  start : Registry ContextId → ContextRef → Forest →
    Except DebugError Nat × Registry ContextId × Forest

namespace BuiltinModule

/-- The debug module. -/
def debug : BuiltinModule := ⟨"_debug", Forest.bind⟩

/-- Every module there is. -/
def all : List BuiltinModule := [debug]

/-- The module of a name. -/
def find? (name : String) : Option BuiltinModule := all.find? (·.name == name)

end BuiltinModule

end HandleGuard
