import HandleGuard.Request
import HandleGuard.Text.Numeral

/-!
# A store of counted integer objects

The plain universal context: its objects are 64-bit integers, and a handle is the address of an
object, counted from one. `dup` adds a reference and answers the same handle, `close` drops one,
and an object without references gives its address back at once. The store checks only what it
needs to stay intact; what it cannot see is left to the debug layer.
-/

namespace HandleGuard

/-- An object with its number of references, which is at least one. -/
structure StoredObject where
  value : Int64
  refs : Nat
deriving DecidableEq, Inhabited, Repr

/-- The objects by address, and the number of calls answered so far. The number has no bound here;
a running program keeps it in 64 bits, and tells the same number for the first `2 ^ 64 - 1` calls.
-/
structure ObjectStore where
  objects : Array (Option StoredObject)
  calls : Nat
deriving DecidableEq, Inhabited, Repr

/-- Why the store refuses a call. -/
inductive StoreError where
  /-- There is no object with this handle. -/
  | noObject (h : Handle)
  /-- The operation takes another number of arguments. -/
  | wrongArity (op : OpId) (takes got : Nat)
  /-- There is no such operation. -/
  | unknownOp (op : OpId)
  /-- Every address holds an object, all `2 ^ 64 - 1` of them. A running program has no such error:
  its memory ends long before. Here it keeps two objects from sharing an address. -/
  | noAddress
deriving DecidableEq, Repr

namespace StoreError

/-- The number of the error. -/
def code : StoreError → UInt32
  | noObject _ => 1
  | wrongArity .. => 2
  | unknownOp _ => 3
  | noAddress => 4

/-- The error in words. -/
def message : StoreError → String
  | noObject h => "no object at " ++ h.text
  | wrongArity op takes got =>
    "op " ++ Numeral.decimal op.code.toNat ++ " takes " ++ Numeral.decimal takes ++
      " argument(s), got " ++ Numeral.decimal got
  | unknownOp op => "unknown op " ++ Numeral.decimal op.code.toNat
  | noAddress => "no address left"

/-- The error as a failed call. -/
def toCallError (e : StoreError) : CallError := .call e.code e.message

end StoreError

namespace ObjectStore

/-- The operation that adds two integers. -/
def addOp : OpId := ⟨1⟩

/-- The operation that negates an integer. -/
def negOp : OpId := ⟨2⟩

/-- References are not counted beyond this number. -/
def maxRefs : Nat := Numeral.halfWordLimit - 1

/-- A store without objects. -/
def empty : ObjectStore := ⟨#[], 0⟩

/-- The handle of the object at index `i`. -/
def handleOf (i : Nat) : Handle := ⟨UInt64.ofNat (i + 1)⟩

/-- The index that a handle is the address of; null is the address of none. -/
def indexOf? (h : Handle) : Option Nat :=
  if h.isNull then none else some (h.raw.toNat - 1)

/-- The object of a handle, with its index. -/
def find? (s : ObjectStore) (h : Handle) : Option (Nat × StoredObject) := do
  let i ← indexOf? h
  let o ← s.objects[i]?
  o.map (i, ·)

/-- How many objects have references. -/
def liveObjects (s : ObjectStore) : Nat := s.objects.countP Option.isSome

/-- Puts an object at index `i`, or removes the one there. -/
def put (s : ObjectStore) (i : Nat) (o : Option StoredObject) : ObjectStore :=
  { s with objects := s.objects.setIfInBounds i o }

/-- A new object with one reference, at the lowest address without an object. -/
def allocate (s : ObjectStore) (value : Int64) : Except StoreError Handle × ObjectStore :=
  match s.objects.findIdx? Option.isNone with
  | some i => (.ok (handleOf i), s.put i (some ⟨value, 1⟩))
  | none =>
    if s.objects.size + 1 < Numeral.wordLimit then
      (.ok (handleOf s.objects.size), { s with objects := s.objects.push (some ⟨value, 1⟩) })
    else (.error .noAddress, s)

/-- The value of the object of `h`. -/
def value (s : ObjectStore) (h : Handle) : Except StoreError Int64 :=
  match s.find? h with
  | some (_, o) => .ok o.value
  | none => .error (.noObject h)

/-- The value that operation `op` computes from `args`; arithmetic wraps around. -/
def compute (s : ObjectStore) (op : OpId) (args : List Handle) : Except StoreError Int64 :=
  if op = addOp then
    match args with
    | [a, b] => do
      let x ← s.value a
      let y ← s.value b
      return x + y
    | _ => .error (.wrongArity op 2 args.length)
  else if op = negOp then
    match args with
    | [a] => do
      let x ← s.value a
      return -x
    | _ => .error (.wrongArity op 1 args.length)
  else .error (.unknownOp op)

/-- Answers a call, without counting it. -/
def answer (s : ObjectStore) : Request → Except StoreError Reply × ObjectStore
  | .dup h =>
    match s.find? h with
    | some (i, o) => (.ok (.handle h), s.put i (some { o with refs := min (o.refs + 1) maxRefs }))
    | none => (.error (.noObject h), s)
  | .close h =>
    match s.find? h with
    | some (i, o) =>
      (.ok .closed, s.put i (if o.refs ≤ 1 then none else some { o with refs := o.refs - 1 }))
    | none => (.error (.noObject h), s)
  | .fromInt v =>
    let (r, s) := s.allocate v
    (r.map .handle, s)
  | .asInt h => ((s.value h).map .value, s)
  | .same a b => (.ok (.same (a == b)), s)
  | .invoke op args =>
    match s.compute op args with
    | .error e => (.error e, s)
    | .ok v =>
      let (r, s) := s.allocate v
      (r.map .handle, s)

/-- Answers a call and counts it. -/
def respond : Universal ObjectStore := fun r s =>
  let (a, s) := { s with calls := s.calls + 1 }.answer r
  (a.mapError StoreError.toCallError, s)

end ObjectStore

end HandleGuard
