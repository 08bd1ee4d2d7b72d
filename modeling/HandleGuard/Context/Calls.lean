import HandleGuard.Context

/-!
# How a debug context answers calls

A debug context checks the handles of a call, passes the call on to its universal context with the
handles they stand for, and wraps a handle that comes back. Nothing is passed on once a check has
failed. A failed check is recorded on the context and handed to its hook, and only then returned.

The context is part of a larger state, which also holds its universal context and perhaps other
contexts; a `Focus` says where. The hook may act on the context while a call is under way, so every
step reads the state afresh. A hook whose own actions fail is called again, but does nothing then.

* `DebugContext.openHandle`, `resolve`, `closeHandle`: the checked operations on the table
* `DebugContext.respond`: the answer to a call
-/

namespace HandleGuard

/-- Where a debug context lies in the state `σ`. -/
structure Focus (σ : Type) where
  /-- Reads and replaces the context. -/
  update : {α : Type} → (DebugContext → α × DebugContext) → σ → α × σ

namespace Focus

variable {σ τ : Type}

/-- The context as it stands. -/
def get (focus : Focus σ) (s : σ) : DebugContext := (focus.update (fun d => (d, d)) s).1

/-- Changes the context. -/
def modify (focus : Focus σ) (f : DebugContext → DebugContext) (s : σ) : σ :=
  (focus.update (fun d => ((), f d)) s).2

/-- The context beside its universal context. -/
def first : Focus (DebugContext × τ) where
  update f := fun (d, u) =>
    let (a, d) := f d
    (a, d, u)

end Focus

/-- A universal context beside a debug context. -/
def Universal.beside {τ : Type} (universal : Universal τ) : Universal (DebugContext × τ) :=
  fun r (d, u) =>
    let (a, u) := universal r u
    (a, d, u)

namespace DebugContext

variable {σ : Type}

/-- A table operation whose failure goes through `onFail` before it is returned. -/
def check (focus : Focus σ) (onFail : DebugError → σ → σ)
    (op : HandleTable → Except DebugError Handle × HandleTable) (s : σ) :
    Except DebugError Handle × σ :=
  match focus.update (onTable op) s with
  | (.ok h, s) => (.ok h, s)
  | (.error e, s) => (.error e, onFail e s)

/-- Issues a debug handle for `uh`. -/
def checkOpen (focus : Focus σ) (onFail : DebugError → σ → σ) (uh : Handle) (s : σ) :
    Except DebugError Handle × σ :=
  check focus onFail (·.openHandle uh) s

/-- The universal handle that `h` stands for. -/
def checkResolve (focus : Focus σ) (onFail : DebugError → σ → σ) (h : Handle) (s : σ) :
    Except DebugError Handle × σ :=
  check focus onFail (fun t => (t.resolve h, t)) s

/-- Marks `h` closed and answers the universal handle it stood for. -/
def checkClose (focus : Focus σ) (onFail : DebugError → σ → σ) (h : Handle) (s : σ) :
    Except DebugError Handle × σ :=
  check focus onFail (·.close h) s

/-- Closes `h` here first, and then the universal handle it stood for. When that second close
fails the debug handle stays closed, so that a retry is a double close and never passed on. -/
def closeThrough (focus : Focus σ) (universal : Universal σ) (onFail : DebugError → σ → σ)
    (h : Handle) (s : σ) : Except CallError Reply × σ :=
  match checkClose focus onFail h s with
  | (.error e, s) => (.error (.check e), s)
  | (.ok uh, s) => if uh.isNull then (.ok .closed, s) else universal (.close uh) s

/-- Records a failed check and leaves it at that. -/
def note (focus : Focus σ) (e : DebugError) (s : σ) : σ :=
  focus.modify (·.record e) s

/-- Performs one action of a hook. Its own failures are noted, and the hook does not act on
them. -/
def perform (focus : Focus σ) (universal : Universal σ) (a : HookAction) (s : σ) :
    Except CallError Handle × σ :=
  let noted := note focus
  match a with
  | .resolve h =>
    let (r, s) := checkResolve focus noted h s
    (r.mapError .check, s)
  | .closeHandle h =>
    let (r, s) := checkClose focus noted h s
    (r.mapError .check, s)
  | .openHandle h =>
    let (r, s) := checkOpen focus noted h s
    (r.mapError .check, s)
  | .close h =>
    let (r, s) := closeThrough focus universal noted h s
    (r.map fun _ => Handle.null, s)
  | .universalClose h =>
    let (r, s) := universal (.close h) s
    (r.map fun _ => Handle.null, s)

/-- Performs one action of a hook and writes its result to the hook's notes. -/
def performNoted (focus : Focus σ) (universal : Universal σ) (s : σ) (a : HookAction) : σ :=
  let (r, s) := perform focus universal a s
  focus.modify (·.noteHook (.performed r)) s

/-- Records a failed check, and lets the hook act. -/
def report (focus : Focus σ) (universal : Universal σ) (e : DebugError) (s : σ) : σ :=
  let s := note focus e s
  let actions := (focus.get s).hook.getD []
  actions.foldl (performNoted focus universal) s

/-- Issues a debug handle for `uh`. -/
def openHandle (focus : Focus σ) (universal : Universal σ) (uh : Handle) (s : σ) :
    Except DebugError Handle × σ :=
  checkOpen focus (report focus universal) uh s

/-- The universal handle that the debug handle `h` stands for. The handle stays open. -/
def resolve (focus : Focus σ) (universal : Universal σ) (h : Handle) (s : σ) :
    Except DebugError Handle × σ :=
  checkResolve focus (report focus universal) h s

/-- Marks the debug handle `h` closed and answers the universal handle it stood for, which is left
as it is. -/
def closeHandle (focus : Focus σ) (universal : Universal σ) (h : Handle) (s : σ) :
    Except DebugError Handle × σ :=
  checkClose focus (report focus universal) h s

/-- Resolves handles from left to right, up to the first that fails. -/
def resolveAll (focus : Focus σ) (universal : Universal σ) :
    List Handle → σ → Except DebugError (List Handle) × σ
  | [], s => (.ok [], s)
  | h :: hs, s =>
    match resolve focus universal h s with
    | (.error e, s) => (.error e, s)
    | (.ok uh, s) =>
      match resolveAll focus universal hs s with
      | (.error e, s) => (.error e, s)
      | (.ok uhs, s) => (.ok (uh :: uhs), s)

/-- Wraps the handle `uh` that the universal context just answered. When no debug handle can be
issued, `uh` is closed again so that it does not leak. -/
def wrap (focus : Focus σ) (universal : Universal σ) (uh : Handle) (s : σ) :
    Except CallError Reply × σ :=
  match openHandle focus universal uh s with
  | (.ok h, s) => (.ok (.handle h), s)
  | (.error e, s) => (.error (.check e), (universal (.close uh) s).2)

/-- Passes a call on whose handles are checked, and wraps a handle that comes back. -/
def forward (focus : Focus σ) (universal : Universal σ) (r : Request) (s : σ) :
    Except CallError Reply × σ :=
  match universal r s with
  | (.ok (.handle uh), s) => wrap focus universal uh s
  | (a, s) => (a, s)

/-- Answers a call on the debug context. -/
def respond (focus : Focus σ) (universal : Universal σ) : Universal σ := fun r s =>
  match r with
  | .close h => closeThrough focus universal (report focus universal) h s
  | r =>
    match resolveAll focus universal r.handles s with
    | (.error e, s) => (.error (.check e), s)
    | (.ok uhs, s) => forward focus universal (r.withHandles uhs) s

end DebugContext

end HandleGuard
