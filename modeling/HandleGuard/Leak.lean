import HandleGuard.Context
import HandleGuard.Schema

/-!
# Leaks

Every handle is stamped with the leak generation in which it was opened. Starting a generation and
later listing the handles of that generation and after that are still open gives the handles leaked
by what ran in between.

* `LeakReport`: everything still open, for the end of a context's life
* `LeakDetector`: what was opened since it started and is still open when it stops
-/

namespace HandleGuard

/-- A handle that was not closed. -/
abbrev LeakedHandle := OpenHandle

/-- The handles of a context that are still open. -/
structure LeakReport where
  schemaVersion : String
  context : ContextId
  generation : UInt64
  leaks : List LeakedHandle
deriving DecidableEq, Inhabited, Repr

namespace LeakReport

/-- Whether every handle was closed. -/
def isClean (r : LeakReport) : Bool := r.leaks.isEmpty

/-- A leak in words. -/
def leakMessage (l : LeakedHandle) : String :=
  "handle " ++ l.handle.text ++ " (universal " ++ l.underlying.text ++ ") opened in generation " ++
    Numeral.decimal l.openedIn.toNat ++ " was never closed"

/-- One diagnostic for each leak. -/
def diagnostics (r : LeakReport) : List Diagnostic :=
  r.leaks.map fun l =>
    { Diagnostic.ofCode .leakedHandle (leakMessage l) with
      handle := some l.handle
      context := some r.context }

end LeakReport

/-- A leak check that found handles open. -/
structure LeakError where
  leaks : List LeakedHandle
deriving DecidableEq, Repr

/-- The error in words. -/
def LeakError.message (e : LeakError) : String :=
  Numeral.decimal e.leaks.length ++ " handle(s) still open:" ++
    String.join (e.leaks.map fun l => " " ++ l.handle.text)

namespace DebugContext

/-- Starts a new leak generation and tells its number. -/
def newGeneration (d : DebugContext) : UInt64 × DebugContext :=
  d.onTable fun t => let t := t.newGeneration; (t.leakGeneration, t)

/-- The open handles of leak generation `since` and later. -/
def openHandles (d : DebugContext) (since : UInt64) : List LeakedHandle :=
  d.table.openHandles since

/-- Every handle still open. -/
def leakReport (d : DebugContext) : LeakReport :=
  { schemaVersion := Schema.leakReport
    context := d.id
    generation := d.table.leakGeneration
    leaks := d.openHandles 0 }

end DebugContext

/-- A leak check under way: it is about the handles of its generation and later. -/
structure LeakDetector where
  generation : UInt64
deriving DecidableEq, Inhabited, Repr

namespace LeakDetector

/-- Starts a leak check. -/
def start (d : DebugContext) : LeakDetector × DebugContext :=
  let (generation, d) := d.newGeneration
  (⟨generation⟩, d)

/-- Ends a leak check: it fails with the handles that are still open. Handles opened from now on
belong to a later check. -/
def stop (detector : LeakDetector) (d : DebugContext) : Except LeakError Unit × DebugContext :=
  let leaks := d.openHandles detector.generation
  let (_, d) := d.newGeneration
  (if leaks.isEmpty then .ok () else .error ⟨leaks⟩, d)

end LeakDetector

end HandleGuard
