import HandleGuard.Store
import HandleGuard.Proofs.Context.Run

/-!
# The ideal store of a debug context

What a user of a debug context before an integer store should see: objects with a fixed value, and
handles that are bound to objects. There are no slots, generations, addresses or reference counts
here. `demand` says what a call asks for, and `Explains` which answers are right: a call that makes a
handle may get any handle that is not in use, and all other answers are determined.

`Accounts` follows a run: every answer is right, the bound handles are the open ones, and the
universal context has an object for each object with a handle.
-/

namespace HandleGuard

/-- Objects by number, with the handles bound to them. -/
structure IdealStore where
  /-- The values of all objects ever made. -/
  values : List Int64
  /-- The open handles, each with the number of its object. -/
  bound : List (Handle × Nat)

/-- What a call asks of the ideal store. -/
inductive Demand where
  /-- The call is refused because `h` is not open. -/
  | refuse (h : Handle)
  /-- The call is refused for another reason. -/
  | fail (e : StoreError)
  /-- The call is answered, and nothing changes. -/
  | reply (r : Reply)
  /-- The handle `h` is given up. -/
  | unbind (h : Handle)
  /-- Another handle to an object. -/
  | share (object : Nat)
  /-- A handle to a new object. -/
  | create (value : Int64)

namespace IdealStore

/-- A store without objects. -/
def empty : IdealStore := ⟨[], []⟩

/-- The number of the object that a handle is bound to. -/
def object? (s : IdealStore) (h : Handle) : Option Nat := s.bound.lookup h

/-- Whether a handle is open. -/
def isOpen (s : IdealStore) (h : Handle) : Bool := (s.object? h).isSome

/-- The value of the object of a handle; null has none. -/
def value (s : IdealStore) (h : Handle) : Except StoreError Int64 :=
  match (s.object? h).bind (s.values[·]?) with
  | some v => .ok v
  | none => .error (.noObject h)

/-- The value of a new object: a sum or a negation, both wrapping around. -/
def compute (s : IdealStore) (op : OpId) (args : List Handle) : Except StoreError Int64 :=
  if op = ObjectStore.addOp then
    match args with
    | [a, b] => do return (← s.value a) + (← s.value b)
    | _ => .error (.wrongArity op 2 args.length)
  else if op = ObjectStore.negOp then
    match args with
    | [a] => do return -(← s.value a)
    | _ => .error (.wrongArity op 1 args.length)
  else .error (.unknownOp op)

/-- What a call asks for. -/
def demand (s : IdealStore) (r : Request) : Demand :=
  match r.handles.find? fun h => !h.isNull && !s.isOpen h with
  | some h => .refuse h
  | none =>
    match r with
    | .dup h =>
      match s.object? h with
      | some o => .share o
      | none => .fail (.noObject h)
    | .close h => if h.isNull then .reply .closed else .unbind h
    | .fromInt v => .create v
    | .asInt h =>
      match s.value h with
      | .ok v => .reply (.value v)
      | .error e => .fail e
    | .same a b => .reply (.same (s.object? a == s.object? b))
    | .invoke op args =>
      match s.compute op args with
      | .ok v => .create v
      | .error e => .fail e

/-- Binds the handle `h` to an object. -/
def bind (s : IdealStore) (h : Handle) (o : Nat) : IdealStore :=
  { s with bound := (h, o) :: s.bound }

/-- Makes a new object and binds the handle `h` to it. -/
def create (s : IdealStore) (h : Handle) (v : Int64) : IdealStore :=
  ⟨s.values ++ [v], (h, s.values.length) :: s.bound⟩

/-- Gives up the handle `h`. -/
def unbind (s : IdealStore) (h : Handle) : IdealStore :=
  { s with bound := s.bound.filter fun p => p.1 ≠ h }

/-- How many objects have handles. -/
def liveObjects (s : IdealStore) : Nat :=
  (List.range s.values.length).countP fun o => (s.bound.map Prod.snd).contains o

/-- Whether an answer and a store afterwards are right where a handle is made: a handle that is
neither null nor open nor remembered, or the one error there is when there is no room for it. -/
def Issues (s : IdealStore) (capacity : Nat) (remembered : List Handle) (add : Handle → IdealStore)
    (a : Except CallError Reply) (s' : IdealStore) : Prop :=
  (s.bound.length < capacity ∧ ∃ h, a = .ok (.handle h) ∧ h ≠ .null ∧ s.isOpen h = false ∧
    h ∉ remembered ∧ s' = add h) ∨
  (s.bound.length = capacity ∧ a = .error (.check (.tableFull capacity)) ∧ s' = s)

/-- Whether an answer and a store afterwards are right for a call. Every error leaves the store
unchanged. -/
def Explains (s : IdealStore) (capacity : Nat) (remembered : List Handle) (r : Request)
    (a : Except CallError Reply) (s' : IdealStore) : Prop :=
  match s.demand r with
  | .refuse h => (∃ e, a = .error (.check e) ∧ e.handle? = some h) ∧ s' = s
  | .fail e => a = .error e.toCallError ∧ s' = s
  | .reply reply => a = .ok reply ∧ s' = s
  | .unbind h => a = .ok .closed ∧ s' = s.unbind h
  | .share o => s.Issues capacity remembered (s.bind · o) a s'
  | .create v => s.Issues capacity remembered (s.create · v) a s'

section

variable {s : IdealStore} {r : Request}

theorem explains_refuse {h : Handle} {e : DebugError} (hdemand : s.demand r = .refuse h)
    (he : e.handle? = some h) (capacity : Nat) (remembered : List Handle) :
    s.Explains capacity remembered r (.error (.check e)) s := by
  rw [Explains, hdemand]
  exact ⟨⟨e, rfl, he⟩, rfl⟩

theorem explains_fail {e : StoreError} (hdemand : s.demand r = .fail e) (capacity : Nat)
    (remembered : List Handle) : s.Explains capacity remembered r (.error e.toCallError) s := by
  rw [Explains, hdemand]
  exact ⟨rfl, rfl⟩

theorem explains_reply {reply : Reply} (hdemand : s.demand r = .reply reply) (capacity : Nat)
    (remembered : List Handle) : s.Explains capacity remembered r (.ok reply) s := by
  rw [Explains, hdemand]
  exact ⟨rfl, rfl⟩

theorem explains_unbind {h : Handle} (hdemand : s.demand r = .unbind h) (capacity : Nat)
    (remembered : List Handle) :
    s.Explains capacity remembered r (.ok .closed) (s.unbind h) := by
  rw [Explains, hdemand]
  exact ⟨rfl, rfl⟩

end

/-- Whether a context and its universal context show what the ideal store has. -/
structure Matches (s : IdealStore) (c : DebugContext × ObjectStore) : Prop where
  isOpen : ∀ h, s.isOpen h = true ↔ ∃ o ∈ c.1.table.openHandles 0, o.handle = h
  liveObjects : c.2.liveObjects = s.liveObjects

/-- Whether the ideal store accounts for a run of calls: it matches at every point, and every answer
is right. -/
def Accounts (s : IdealStore) (c : DebugContext × ObjectStore) : List Request → Prop
  | [] => s.Matches c
  | r :: rs =>
    let (a, c') := DebugContext.respond .first (Universal.beside ObjectStore.respond) r c
    s.Matches c ∧ ∃ s' : IdealStore,
      s.Explains c.1.table.capacity c.1.table.closedHandles r a s' ∧ s'.Accounts c' rs

end IdealStore

end HandleGuard
