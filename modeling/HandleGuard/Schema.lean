/-!
# Versions of the written forms

Every document that is read or written names the version of its form. A document of another
version is not read.
-/

namespace HandleGuard.Schema

/-- Traces to replay. -/
def trace : String := "hdebug.trace@0.1.0"

/-- Reports of a replay. -/
def report : String := "hdebug.report@0.1.0"

/-- The catalogue of diagnostics. -/
def diagnostics : String := "hdebug.diag@0.1.0"

/-- Reports of leaked handles. -/
def leakReport : String := "hdebug.leak-report@0.1.0"

/-- The layout of operation tables. -/
def tableVersion : UInt32 := 1

end HandleGuard.Schema
