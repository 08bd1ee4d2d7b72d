import HandleGuard.Foreign.Surface

/-!
# Binding across the foreign interface

The process has one registry. `bind` hands out the table of the debug context that serves a
universal table, and makes both on first use. A caller may also provide the memory for a debug
table: `initTable` fills it, and `install` puts it in service.
-/

namespace HandleGuard.Foreign.Surface

/-- Makes a debug context before universal table `u`, without a table of its own yet. -/
def addGuard (u : TableRef) (universalName : String) (s : Surface) : Nat × Surface :=
  let config := s.registry.config
  let context := DebugContext.new s.nextId s.guards.size (universalId u) universalName config
  (s.guards.size,
    { s with
      guards := s.guards.push
        { context
          universal := u
          universalName
          policy := config.onInvalid
          lastError := none
          table := none } })

/-- The table of guard `i`. -/
def tableFor (s : Surface) (i : Nat) : OpTable :=
  .ofGuard i ((s.guards[i]?.map (·.context.name)).getD "")

/-- Hands out table `t` for guard `i` from now on. -/
def handOut (t : TableRef) (i : Nat) (s : Surface) : Surface :=
  s.modifyGuard i ({ · with table := some t })

/-- The table of the debug context that serves the universal table `p`; null when `p` is not
usable or may not be served. -/
def bind (p : Pointer) (s : Surface) : Pointer × Surface :=
  match s.universal? p with
  | none => (none, s.badTable)
  | some (u, name) =>
    match s.registry.admission u with
    | .bound i => (s.guards[i]?.bind Guard.table, s)
    | .refused bound =>
      (none, s.failBinding (.configuration (universalId bound) (universalId u)))
    | .free =>
      let (i, s) := s.addGuard u name
      let table := s.tableFor i
      let (t, s) := s.addTable .blank
      let s := s.fill t table
      (some t, { s with registry := s.registry.insert u i }.handOut t i)

/-- Fills the table behind `p` for a new debug context before the universal table `u`. -/
def initTable (p u : Pointer) (s : Surface) : Status × Surface :=
  match p, s.universal? u with
  | some t, some (u, name) =>
    -- The universal table is read first: it may be the very table that is filled.
    let (i, s) := s.addGuard u name
    (.done, s.fill t (s.tableFor i))
  | _, _ => (.refused, s.badTable)

/-- Puts the debug context behind `p` in service for its universal table, under that pointer. -/
def install (p : Pointer) (s : Surface) : Status × Surface :=
  match p, s.guard? p with
  | some t, some i =>
    let u := (s.guards[i]?.map Guard.universal).getD 0
    match s.registry.admission u with
    | .bound j =>
      if j = i then (.done, s.handOut t i)
      else (.refused, s.failBinding (.configuration (s.guardId j) (s.guardId i)))
    | .refused bound =>
      (.refused, s.failBinding (.configuration (universalId bound) (universalId u)))
    | .free => (.done, { s with registry := s.registry.insert u i }.handOut t i)
  | _, _ => (.refused, s.badTable)

end HandleGuard.Foreign.Surface
