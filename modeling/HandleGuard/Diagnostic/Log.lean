import HandleGuard.Diagnostic
import HandleGuard.Fifo

/-!
# The log of a context

A context keeps its latest diagnostics, oldest first, in a log of bounded length. When the log is
full the oldest one makes room, and the log counts how many were lost that way.
-/

namespace HandleGuard

/-- The latest diagnostics of a context. The number of those dropped has no bound here; a running
program counts them in 64 bits, and the two agree up to `2 ^ 64 - 1` of them. -/
structure DiagnosticLog where
  entries : Fifo Diagnostic
  max : Nat
  dropped : Nat
deriving DecidableEq, Inhabited

namespace DiagnosticLog

/-- An empty log for `max` diagnostics; there is always room for one. -/
def new (max : Nat) : DiagnosticLog :=
  { entries := .empty, max := Nat.max max 1, dropped := 0 }

/-- Adds `d`, in place of the oldest one when the log is full. -/
def push (log : DiagnosticLog) (d : Diagnostic) : DiagnosticLog :=
  if log.entries.size = log.max then
    match log.entries.pop? with
    | some (_, rest) => { log with entries := rest.push d, dropped := log.dropped + 1 }
    | none => { log with entries := log.entries.push d, dropped := log.dropped + 1 }
  else
    { log with entries := log.entries.push d }

/-- How many diagnostics the log holds. -/
def length (log : DiagnosticLog) : Nat := log.entries.size

/-- Whether the log holds none. -/
def isEmpty (log : DiagnosticLog) : Bool := log.entries.size == 0

/-- The diagnostics held, oldest first. -/
def snapshot (log : DiagnosticLog) : List Diagnostic := log.entries.toList

/-- Hands out all diagnostics held and forgets them; the count of lost ones stays. -/
def drain (log : DiagnosticLog) : List Diagnostic × DiagnosticLog :=
  (log.snapshot, { log with entries := .empty })

end DiagnosticLog

end HandleGuard
