import HandleGuard.Replay

/-!
# The lives of handles in a trace

What a replay should find, told of the trace alone. There is no table here and no store, and nothing
is configured but the number of closed handles that are remembered, which decides between the names
of two errors. Each handle that an operation makes is a `Production`. A name means the production
that it was given to last, and a production is closed by the first operation that is to close it.

* `Lifetimes.after`     follows a trace; there is no end when a replay has to stop
* `Lifetimes.results`   the results of the operations
* `Lifetimes.leaked`    the productions that were never closed
-/

namespace HandleGuard

namespace TraceOp

/-- The handles that an operation is given, from left to right. -/
def refs : TraceOp → List HandleRef
  | fromInt .. | newGeneration => []
  | dup h _ | close h | asInt h | rawUnwrap h | rawClose h => [h]
  | same a b => [a, b]
  | invoke _ args _ => args

/-- Whether an operation is to close the handle that it is given. -/
def closes : TraceOp → Bool
  | close _ | rawClose _ => true
  | _ => false

end TraceOp

/-- A result without its handle, of which only the table can know. -/
def OpResult.withoutHandle (r : OpResult) : OpResult := { r with handle := none }

/-- A handle that an operation made. -/
structure Production where
  /-- The number of the operation. -/
  origin : Nat
  /-- The object of the handle, by the number of the operation that made the object. -/
  object : Nat
  value : Int64
deriving DecidableEq, Repr

/-- A trace up to some point. -/
structure Lifetimes where
  /-- How many operations there were. -/
  count : Nat
  made : List Production
  /-- The names with the productions they were given to, latest first. -/
  names : List (String × Production)
  /-- The closed productions, latest first. -/
  closed : List Production
  /-- How many leak generations were started. -/
  generation : UInt64
deriving Repr

namespace Lifetimes

/-- A trace without operations. -/
def start : Lifetimes := ⟨0, [], [], [], 0⟩

/-- The production that a name means. -/
def find? (w : Lifetimes) : HandleRef → Option Production
  | .name s => w.names.lookup s
  | .raw _ => none

/-- The productions that an operation is given, if all names are known. -/
def referred (w : Lifetimes) (op : TraceOp) : Option (List Production) := op.refs.mapM w.find?

/-- The first of some productions that is closed. -/
def firstClosed (w : Lifetimes) (ps : List Production) : Option Production :=
  ps.find? (· ∈ w.closed)

/-- The value that operation `op` computes; arithmetic wraps around. -/
def compute (op : OpId) (values : List Int64) : Option Int64 :=
  if op = ObjectStore.addOp then
    match values with
    | [x, y] => some (x + y)
    | _ => none
  else if op = ObjectStore.negOp then
    match values with
    | [x] => some (-x)
    | _ => none
  else none

/-- After an operation that changed nothing. -/
def skip (w : Lifetimes) : Lifetimes := { w with count := w.count + 1 }

/-- After an operation that made a handle. -/
def produce (w : Lifetimes) (bind : Option String) (object : Nat) (value : Int64) : Lifetimes :=
  let p : Production := ⟨w.count, object, value⟩
  { w.skip with
    made := w.made ++ [p]
    names := match bind with
      | some s => (s, p) :: w.names
      | none => w.names }

/-- After an operation on productions that are not closed. `fromInt` and `invoke` make an object,
and `dup` makes one more handle to an object. -/
def perform (w : Lifetimes) : TraceOp → List Production → Option Lifetimes
  | .fromInt v bind, _ => some (w.produce bind w.count v)
  | .dup _ bind, [p] => some (w.produce bind p.object p.value)
  | .invoke op _ bind, ps => (compute op (ps.map Production.value)).map (w.produce bind w.count)
  | .close _, [p] | .rawClose _, [p] => some { w.skip with closed := p :: w.closed }
  | .newGeneration, _ => some { w.skip with generation := w.generation + 1 }
  | _, _ => some w.skip

/-- After one more operation. It changes nothing when it is given a closed production. -/
def step (w : Lifetimes) (op : TraceOp) : Option Lifetimes :=
  match w.referred op with
  | none => none
  | some ps =>
    match w.firstClosed ps with
    | some _ => some w.skip
    | none => w.perform op ps

/-- After more operations. -/
def after (w : Lifetimes) : List TraceOp → Option Lifetimes
  | [] => some w
  | op :: ops => (w.step op).bind (after · ops)

/-- The error of an operation that is given the closed production `p`, when `closedQueueMax` closed
handles are remembered. -/
def misuse (w : Lifetimes) (closedQueueMax : Nat) (op : TraceOp) (p : Production) :
    DiagnosticCode :=
  if p ∈ w.closed.take closedQueueMax then
    if op.closes then .doubleClose else .useAfterClose
  else .invalidHandle

/-- The result of an operation on productions that are not closed, without its handle. -/
def reading (w : Lifetimes) (op : TraceOp) (ps : List Production) : OpResult :=
  match op, ps with
  | .asInt _, [p] => { OpResult.plain op.name with value := some p.value }
  | .same .., [p, q] => { OpResult.plain op.name with same := some (p.object == q.object) }
  | .newGeneration, _ =>
    { OpResult.plain op.name with value := some (w.generation + 1).toInt64 }
  | _, _ => .plain op.name

/-- The result of an operation, without its handle. -/
def result (w : Lifetimes) (closedQueueMax : Nat) (op : TraceOp) : OpResult :=
  let ps := (w.referred op).getD []
  match w.firstClosed ps with
  | some p => { OpResult.plain op.name with error := some (w.misuse closedQueueMax op p) }
  | none => w.reading op ps

/-- The results of operations, without their handles. -/
def results (closedQueueMax : Nat) (w : Lifetimes) : List TraceOp → List OpResult
  | [] => []
  | op :: ops =>
    w.result closedQueueMax op ::
      match w.step op with
      | some w => results closedQueueMax w ops
      | none => []

/-- The productions that were never closed. -/
def leaked (w : Lifetimes) : List Production := w.made.filter (· ∉ w.closed)

/-! ### One operation, by what it is given -/

variable {w : Lifetimes} {op : TraceOp} {ps : List Production} {p : Production}
  {closedQueueMax : Nat}

theorem step_of_open (hrefs : w.referred op = some ps) (hopen : w.firstClosed ps = none) :
    w.step op = w.perform op ps := by
  simp only [step, hrefs, hopen]

theorem step_of_closed (hrefs : w.referred op = some ps) (hclosed : w.firstClosed ps = some p) :
    w.step op = some w.skip := by
  simp only [step, hrefs, hclosed]

theorem result_of_open (hrefs : w.referred op = some ps) (hopen : w.firstClosed ps = none) :
    w.result closedQueueMax op = w.reading op ps := by
  simp only [result, hrefs, Option.getD_some, hopen]

theorem result_of_closed (hrefs : w.referred op = some ps)
    (hclosed : w.firstClosed ps = some p) :
    w.result closedQueueMax op =
      { OpResult.plain op.name with error := some (w.misuse closedQueueMax op p) } := by
  simp only [result, hrefs, Option.getD_some, hclosed]

/-- Which operations fail does not depend on how many closed handles are remembered. -/
theorem isSome_error_results (closedQueueMax closedQueueMax' : Nat) (w : Lifetimes)
    (ops : List TraceOp) :
    (w.results closedQueueMax ops).map (·.error.isSome) =
      (w.results closedQueueMax' ops).map (·.error.isSome) := by
  induction ops generalizing w with
  | nil => rfl
  | cons op ops ih =>
    have hresult : (w.result closedQueueMax op).error.isSome =
        (w.result closedQueueMax' op).error.isSome := by
      rw [result, result]
      split <;> rfl
    rw [results, results, List.map_cons, List.map_cons, hresult]
    cases w.step op with
    | none => rfl
    | some w => exact congrArg _ (ih w)

end Lifetimes

end HandleGuard
