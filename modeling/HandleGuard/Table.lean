import HandleGuard.Error
import HandleGuard.Fifo
import HandleGuard.Handle.Encoding

/-!
# The handle table of a debug context

A table translates debug handles to the universal handles they stand for. Slots are addressed by
number and versioned by a generation. Closing a handle keeps its entry, so that a later use is
recognised, and queues the slot. Only when the slot falls off the bounded queue is it retired: its
generation moves on, the slot becomes free for the next handle, and the closed handle is invalid
from then on.

* `openHandle`, `resolve`, `close`: the three checked operations
* `lookup`: what a value means to the table
* `openHandles`, `closedHandles`, `entry?`: views of its contents
* `setClosedQueueMax`, `newGeneration`: its two dials
-/

namespace HandleGuard

/-- What a table knows about one issued handle. -/
structure HandleEntry where
  underlying : Handle
  alive : Bool
  generation : Nat
  /-- The leak generation in which the handle was opened. -/
  openedIn : UInt64
deriving DecidableEq, Inhabited, Repr

/-- One slot of a table. -/
inductive Slot where
  /-- Free: the next handle of this slot gets `generation`. -/
  | free (generation : Nat)
  /-- Taken by an open handle, or by a closed one that is still remembered. -/
  | occupied (entry : HandleEntry)
deriving DecidableEq, Inhabited, Repr

/-- The generation of the slot's present or next handle. -/
def Slot.generation : Slot → Nat
  | free generation => generation
  | occupied entry => entry.generation

/-- An open handle, as leak queries list it. -/
structure OpenHandle where
  handle : Handle
  underlying : Handle
  openedIn : UInt64
deriving DecidableEq, Inhabited, Repr

/-- The handles a debug context has issued. -/
structure HandleTable where
  tag : Nat
  slots : Array Slot
  /-- The retired slots, latest first. -/
  free : List Nat
  /-- The slots of closed handles that are still remembered, oldest first. -/
  closed : Fifo Nat
  closedQueueMax : Nat
  capacity : Nat
  leakGeneration : UInt64
  openCount : Nat
deriving DecidableEq, Inhabited

namespace HandleTable

/-- How many closed handles a table remembers unless told otherwise. -/
def defaultClosedQueueMax : Nat := 1024

/-- An empty table that never has more than `capacity` slots. -/
def withCapacity (tag closedQueueMax capacity : Nat) : HandleTable :=
  { tag := tag % Handle.tagLimit
    slots := #[]
    free := []
    closed := .empty
    closedQueueMax
    capacity := min capacity Handle.maxSlots
    leakGeneration := 0
    openCount := 0 }

/-- An empty table that may use every slot number a handle can hold. -/
def new (tag closedQueueMax : Nat) : HandleTable :=
  withCapacity tag closedQueueMax Handle.maxSlots

/-- How many closed handles are remembered. -/
def closedCount (t : HandleTable) : Nat := t.closed.size

/-- The handle of the table's slot `slot` in generation `generation`. -/
def handleAt (t : HandleTable) (slot generation : Nat) : Handle :=
  Handle.Fields.encode { slot, tag := t.tag, generation }

/-- Retires the slot that was closed first: it is free again, one generation on. -/
def retireOldest (t : HandleTable) : HandleTable :=
  match t.closed.pop? with
  | none => t
  | some (slot, closed) =>
    match t.slots[slot]? with
    | some (.occupied entry) =>
      { t with
        slots := t.slots.setIfInBounds slot (.free (Handle.nextGeneration entry.generation))
        free := slot :: t.free
        closed }
    | _ => { t with closed }

/-- Retires slots until no more closed handles are remembered than the queue may hold. -/
def trim (t : HandleTable) : HandleTable :=
  Nat.repeat retireOldest (t.closed.size - t.closedQueueMax) t

/-- Changes how many closed handles are remembered. -/
def setClosedQueueMax (t : HandleTable) (max : Nat) : HandleTable :=
  { t with closedQueueMax := max }.trim

/-- Starts a new leak generation. -/
def newGeneration (t : HandleTable) : HandleTable :=
  { t with leakGeneration := t.leakGeneration + 1 }

/-- A slot for a new handle without giving up any closed one: a free slot, or a new one while the
table may still grow. -/
def takeSlot (t : HandleTable) : Option (Nat × HandleTable) :=
  match t.free with
  | slot :: free => some (slot, { t with free })
  | [] =>
    if t.slots.size < t.capacity then
      some (t.slots.size, { t with slots := t.slots.push (.free 0) })
    else none

/-- Fills `slot` with an open handle for `underlying`. -/
def fill (t : HandleTable) (slot : Nat) (underlying : Handle) : Handle × HandleTable :=
  let generation := (t.slots[slot]?.map Slot.generation).getD 0
  let entry := { underlying, alive := true, generation, openedIn := t.leakGeneration }
  (t.handleAt slot generation,
    { t with
      slots := t.slots.setIfInBounds slot (.occupied entry)
      openCount := t.openCount + 1 })

/-- Issues a new handle for `underlying`; null stays null. When the table is at its capacity the
handle that was closed first is given up, and when there is none the table is full. -/
def openHandle (t : HandleTable) (underlying : Handle) : Except DebugError Handle × HandleTable :=
  if underlying.isNull then (.ok .null, t)
  else
    match t.takeSlot with
    | some (slot, t) =>
      let (handle, t) := t.fill slot underlying
      (.ok handle, t)
    | none =>
      -- No slot is free and the table may not grow: the oldest closed handle has to go.
      match t.retireOldest.takeSlot with
      | some (slot, t) =>
        let (handle, t) := t.fill slot underlying
        (.ok handle, t)
      | none => (.error (.tableFull t.capacity), t.retireOldest)

/-- The slot and entry that `h` stands for, or why it stands for none. -/
def lookup (t : HandleTable) (h : Handle) : Except InvalidReason (Nat × HandleEntry) :=
  match h.fields? with
  | none => .error .malformed
  | some f =>
    if f.tag ≠ t.tag then .error .foreignContext
    else
      match t.slots[f.slot]? with
      | none => .error .neverIssued
      | some (.free _) => .error .retired
      | some (.occupied entry) =>
        if entry.generation ≠ f.generation then .error .staleGeneration
        else .ok (f.slot, entry)

/-- The universal handle that the open handle `h` stands for; null stays null. -/
def resolve (t : HandleTable) (h : Handle) : Except DebugError Handle :=
  if h.isNull then .ok .null
  else
    match t.lookup h with
    | .error reason => .error (.invalidHandle h reason)
    | .ok (_, entry) => if entry.alive then .ok entry.underlying else .error (.useAfterClose h)

/-- Closes the open handle `h` and tells the universal handle it stood for; null stays null. -/
def close (t : HandleTable) (h : Handle) : Except DebugError Handle × HandleTable :=
  if h.isNull then (.ok .null, t)
  else
    match t.lookup h with
    | .error reason => (.error (.invalidHandle h reason), t)
    | .ok (slot, entry) =>
      if entry.alive then
        (.ok entry.underlying,
          { t with
            slots := t.slots.setIfInBounds slot (.occupied { entry with alive := false })
            openCount := t.openCount - 1
            closed := t.closed.push slot }.trim)
      else (.error (.doubleClose h), t)

/-- What the table knows about `h`, open or closed. -/
def entry? (t : HandleTable) (h : Handle) : Option HandleEntry :=
  match t.lookup h with
  | .ok (_, entry) => some entry
  | .error _ => none

/-- The open handles of leak generation `since` and later, in slot order. -/
def openHandles (t : HandleTable) (since : UInt64) : List OpenHandle :=
  t.slots.toList.zipIdx.filterMap fun (slot, number) =>
    match slot with
    | .occupied entry =>
      if entry.alive && since ≤ entry.openedIn then
        some ⟨t.handleAt number entry.generation, entry.underlying, entry.openedIn⟩
      else none
    | .free _ => none

/-- The closed handles that are still remembered, oldest first. -/
def closedHandles (t : HandleTable) : List Handle :=
  t.closed.toList.filterMap fun (slot : Nat) =>
    match t.slots[slot]? with
    | some (.occupied entry) => some (t.handleAt slot entry.generation)
    | _ => none

end HandleTable

end HandleGuard
