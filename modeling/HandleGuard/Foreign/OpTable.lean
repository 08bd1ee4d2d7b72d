import HandleGuard.Config
import HandleGuard.Foreign.ErrorCode
import HandleGuard.Request
import HandleGuard.Schema
import HandleGuard.Text.Utf8

/-!
# Operation tables

Across the foreign interface a context is a table of six functions. Universal contexts and debug
contexts have tables of the same layout, so a debug context can stand before anything that has a
table. Tables are told apart by where they are, here by number, and a pointer may also be null.

Functions of a table answer with plain words: `Returned` is such an answer, and `Returned.read`
says how the caller understands it. Null is the failure of a function that answers a handle; minus
one is the failure of the others, of which only the comparison can be told from an answer.
-/

namespace HandleGuard

/-- The name that the slot of an operation has in a table. -/
def Operation.slotName : Operation → String
  | dup => "dup"
  | close => "close"
  | fromInt => "long_from_i64"
  | asInt => "long_as_i64"
  | same => "is"
  | invoke => "invoke"

/-- The slots of a table, in order. -/
def Operation.all : List Operation := [dup, close, fromInt, asInt, same, invoke]

namespace Foreign

/-- The number of a table. -/
abbrev TableRef := Nat

/-- What a foreign caller passes for a table: one of the tables, or null. -/
abbrev Pointer := Option TableRef

/-- What a function of a table returns. -/
inductive Returned where
  | handle (h : Handle)
  | nothing
  | value (v : Int64)
  | verdict (n : Int32)
deriving DecidableEq, Inhabited, Repr

namespace Returned

/-- The failure of an operation. -/
def failure : Operation → Returned
  | .dup | .fromInt | .invoke => handle .null
  | .close => nothing
  | .asInt => value (-1)
  | .same => verdict (-1)

/-- A successful reply. -/
def ofReply : Reply → Returned
  | .handle h => handle h
  | .closed => nothing
  | .value v => value v
  | .same yes => verdict (if yes then 1 else 0)

/-- The answer to a call of operation `op`. -/
def ofAnswer (op : Operation) : Except CallError Reply → Returned
  | .ok reply => ofReply reply
  | .error _ => failure op

/-- A failure that a caller understands from what a universal function returned. -/
def understoodFailure (op : Operation) : CallError :=
  .call (UInt32.ofNat ErrorCode.call.number) (op.slotName ++ " failed")

/-- How a caller understands what the universal function for `op` returned. -/
def read (op : Operation) : Returned → Except CallError Reply
  | handle h => if h.isNull then .error (understoodFailure op) else .ok (.handle h)
  | nothing => .ok .closed
  | value v => .ok (.value v)
  | verdict n => if n < 0 then .error (understoodFailure op) else .ok (.same (n != 0))

/-- A caller understands every successful reply, unless it is the null handle. -/
theorem read_ofReply {op : Operation} {reply : Reply} (h : reply ≠ .handle .null) :
    (ofReply reply).read op = .ok reply := by
  cases reply with
  | handle x =>
    have hx : x.isNull = false := by
      rw [Handle.isNull_eq_false_iff]
      exact fun e => h (e ▸ rfl)
    simp [ofReply, read, hx]
  | closed => rfl
  | value v => rfl
  | same yes => cases yes <;> rfl

end Returned

/-- The functions in a table. -/
inductive Functions where
  /-- There are none yet. -/
  | blank
  /-- Those of a host, which may leave some out. -/
  | host (missing : List Operation)
  /-- Those of a debug context, which are always all there. -/
  | debug
deriving DecidableEq, Inhabited, Repr

/-- Whether the slot of `op` is filled. -/
def Functions.has : Functions → Operation → Bool
  | blank, _ => false
  | host missing, op => !missing.contains op
  | debug, _ => true

/-- The private part of a table: null, or the number of a state. Hosts and debug contexts are
counted each from zero, and whose state is meant only the functions of the table know. -/
inductive Backing where
  | nothing
  | state (i : Nat)
deriving DecidableEq, Inhabited, Repr

/-- The number of the state, if there is one. -/
def Backing.state? : Backing → Option Nat
  | nothing => none
  | state i => some i

/-- An operation table. -/
structure OpTable where
  /-- The name as bytes, if there is one. -/
  name : Option ByteArray
  version : UInt32
  backing : Backing
  functions : Functions
deriving Inhabited

namespace OpTable

/-- A table of nulls. -/
def blank : OpTable := ⟨none, 0, .nothing, .blank⟩

/-- The table of a host. -/
def ofHost (i : Nat) (name : Option ByteArray) (version : UInt32) (missing : List Operation) :
    OpTable :=
  ⟨name, version, .state i, .host missing⟩

/-- The table of a debug context. -/
def ofGuard (i : Nat) (name : String) : OpTable :=
  ⟨some name.toUTF8, Schema.tableVersion, .state i, .debug⟩

/-- Whether the table has the layout that is known here. -/
def isCurrent (t : OpTable) : Bool := t.version == Schema.tableVersion

/-- The name of a table as text: it ends before the first zero byte. -/
def nameText? (t : OpTable) : Option String :=
  t.name.map fun b => Utf8.lossy (b.data.toList.takeWhile (· != 0)).toByteArray

/-- The name that a universal context with this table goes by. -/
def universalName (t : OpTable) : String := t.nameText?.getD "universal"

/-- The number in the private part, when the table has the layout that is known here. -/
def state? (t : OpTable) : Option Nat := if t.isCurrent then t.backing.state? else none

/-- The private part of a debug table has the number of its context. -/
@[simp] theorem state?_ofGuard (i : Nat) (name : String) : (ofGuard i name).state? = some i := rfl

end OpTable

end Foreign

end HandleGuard
