import HandleGuard.Error

/-!
# Calls on a context

Universal contexts and debug contexts answer the same six calls. A call is a value, `Request`, and
so is its answer, `Reply`; a context is what turns one into the other and moves its state on.
-/

namespace HandleGuard

/-- A call on a context. -/
inductive Request where
  /-- A second handle to the object of `h`. -/
  | dup (h : Handle)
  /-- Gives the handle up. -/
  | close (h : Handle)
  /-- A new integer object. -/
  | fromInt (value : Int64)
  /-- The value of an integer object. -/
  | asInt (h : Handle)
  /-- Whether two handles are of one object. -/
  | same (a b : Handle)
  /-- The result of operation `op` on the objects of `args`. -/
  | invoke (op : OpId) (args : List Handle)
deriving DecidableEq, Inhabited, Repr

/-- The six kinds of calls. -/
inductive Operation where
  | dup
  | close
  | fromInt
  | asInt
  | same
  | invoke
deriving DecidableEq, Inhabited, Repr

/-- What a successful call answers. -/
inductive Reply where
  /-- A handle, of a duplicate or of a new object. -/
  | handle (h : Handle)
  /-- The handle is closed. -/
  | closed
  /-- The value of an object. -/
  | value (v : Int64)
  /-- Whether the handles are of one object. -/
  | same (yes : Bool)
deriving DecidableEq, Inhabited, Repr

namespace Request

/-- The kind of a call. -/
def operation : Request → Operation
  | dup _ => .dup
  | close _ => .close
  | fromInt _ => .fromInt
  | asInt _ => .asInt
  | same .. => .same
  | invoke .. => .invoke

/-- The handles a call is given, from left to right. -/
def handles : Request → List Handle
  | dup h | close h | asInt h => [h]
  | fromInt _ => []
  | same a b => [a, b]
  | invoke _ args => args

/-- The same call on other handles; `hs` has as many as the call. -/
def withHandles : Request → List Handle → Request
  | dup _, [h] => dup h
  | close _, [h] => close h
  | asInt _, [h] => asInt h
  | same _ _, [a, b] => same a b
  | invoke op _, args => invoke op args
  | r, _ => r

@[simp] theorem withHandles_handles (r : Request) : r.withHandles r.handles = r := by
  cases r <;> rfl

theorem handles_withHandles {r : Request} {hs : List Handle}
    (h : hs.length = r.handles.length) : (r.withHandles hs).handles = hs := by
  cases r <;> simp only [handles, List.length_cons, List.length_nil] at h
  case invoke => rfl
  case fromInt => rw [List.length_eq_zero_iff.mp h]; rfl
  case same =>
    match hs, h with
    | [_, _], _ => rfl
  all_goals
    match hs, h with
    | [_], _ => rfl

end Request

/-- A context whose state is part of `σ`: how it answers a call, and the state afterwards. -/
abbrev Universal (σ : Type) := Request → σ → Except CallError Reply × σ

end HandleGuard
