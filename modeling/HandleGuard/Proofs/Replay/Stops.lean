import HandleGuard.Proofs.Replay.Exact
import HandleGuard.Proofs.Replay.Sessions
import Mathlib.Algebra.Group.Nat.Defs

/-!
# Where a replay stops

A replay goes on after failed checks, whatever handles its trace forges and whatever references it
loses. It stops at a name that means nothing, or at an operation that the store refuses on handles
that are all fine. `TraceOp.Stops` says this of one operation, from the operations before it with
their results and from the table as they left it, without a look at the store.

* `Replayer.Sound.step`, `Replayer.Sound.run_error_iff`   one operation, and a run of operations
* `replay_stops_iff`                                      where a replay stops
-/

namespace HandleGuard

namespace TraceOp

/-- The name that an operation gives to the handle it makes. -/
def bind? : TraceOp → Option String
  | fromInt _ bind | dup _ bind | invoke _ _ bind => bind
  | _ => none

/-- Why an operation on the handles `hs` fails when all of them are null or open. -/
def refusal : TraceOp → List Handle → Option StoreError
  | dup .., [h] => (Request.dup h).refusal
  | asInt _, [h] => (Request.asInt h).refusal
  | invoke op .., hs => (Request.invoke op hs).refusal
  | _, _ => none

end TraceOp

/-- The handle that a reference means after the operations `done` with their results. A name means
the handle that the last operation with this name made. -/
def HandleRef.meaning? (done : List (TraceOp × OpResult)) : HandleRef → Option Handle
  | raw h => some h
  | name s => done.reverse.findSome? fun p => if p.1.bind? = some s then p.2.handle else none

/-- Whether and why an operation stops a replay, after the operations `done` with their results and
with this table. -/
inductive TraceOp.Stops (done : List (TraceOp × OpResult)) (table : HandleTable) (op : TraceOp) :
    ReplayCause → Prop
  /-- The first of its references that means nothing is a name. -/
  | unknownName {s : String}
    (hunknown : (op.refs.find? fun ref => (ref.meaning? done).isNone) = some (.name s)) :
    Stops done table op (.unknownName s)
  /-- Its references mean handles that may all be used, and it fails on them nevertheless. -/
  | refused {hs : List Handle} {e : StoreError}
    (hmeaning : op.refs.map (HandleRef.meaning? done) = hs.map some)
    (haccepts : ∀ h ∈ hs, table.Accepts h) (hrefusal : op.refusal hs = some e) :
    Stops done table op (.failedCall e.toCallError)

/-- The operation `e.op` is one of `ops`, the first of which is number `index`. A replay that has
come to `p` through `done` gets as far as that operation, which stops it as `e` tells. -/
def Replayer.StopsAt (p : Replayer) (done : List (TraceOp × OpResult)) (index : Nat)
    (ops : List TraceOp) (e : ReplayError) : Prop :=
  ∃ before after results q, ops = before ++ e.op :: after ∧ e.index = index + before.length ∧
    run index before p = .ok (results, q) ∧
    e.op.Stops (done ++ before.zip results) q.session.1.table e.cause

/-! ### Names -/

theorem HandleRef.meaning?_append (done : List (TraceOp × OpResult)) (op : TraceOp) (r : OpResult)
    (s : String) : HandleRef.meaning? (done ++ [(op, r)]) (.name s) =
      (if op.bind? = some s then r.handle else none).or (HandleRef.meaning? done (.name s)) := by
  rw [meaning?, meaning?, List.reverse_append, List.reverse_singleton, List.singleton_append,
    List.findSome?_cons]
  cases if op.bind? = some s then r.handle else none <;> rfl

/-- A reply is named with the handle in its result. -/
theorem HandleNames.lookup_bind (names : HandleNames) (b : Option String) (reply : Reply)
    (kind s : String) : (names.bind b reply).lookup s =
      (if b = some s then (OpResult.answered kind reply).handle else none).or
        (names.lookup s) := by
  cases b with
  | none => cases reply <;> rfl
  | some s' =>
    cases reply with
    | handle h =>
      rw [bind, List.lookup_cons]
      by_cases hs : s = s'
      · subst hs
        simp [OpResult.answered]
      · rw [beq_false_of_ne hs, if_neg (by simpa using Ne.symm hs)]
        rfl
    | _ => split <;> rfl

section

variable {names : HandleNames} {done : List (TraceOp × OpResult)} {op : TraceOp}
  (hnames : ∀ s, names.lookup s = HandleRef.meaning? done (.name s))

include hnames

theorem HandleNames.find_cases (ref : HandleRef) :
    (∃ h, ref.meaning? done = some h ∧ names.find ref = .ok h) ∨
    ∃ s, ref = .name s ∧ ref.meaning? done = none ∧ names.find ref = .error (.unknownName s) := by
  cases ref with
  | raw h => exact .inl ⟨h, rfl, rfl⟩
  | name s =>
    rw [← hnames s, HandleNames.find]
    cases names.lookup s with
    | some h => exact .inl ⟨h, rfl, rfl⟩
    | none => exact .inr ⟨s, rfl, rfl, rfl⟩

theorem HandleNames.findAll_cases (refs : List HandleRef) :
    (∃ hs, refs.map (HandleRef.meaning? done) = hs.map some ∧ names.findAll refs = .ok hs) ∨
    ∃ s, (refs.find? fun ref => (ref.meaning? done).isNone) = some (.name s) ∧
      names.findAll refs = .error (.unknownName s) := by
  induction refs with
  | nil => exact .inl ⟨[], rfl, rfl⟩
  | cons ref refs ih =>
    rw [List.map_cons, List.find?_cons, HandleNames.findAll]
    obtain ⟨h, hmeaning, hfind⟩ | ⟨s, rfl, hmeaning, hfind⟩ := HandleNames.find_cases hnames ref
    · rw [hmeaning, hfind]
      obtain ⟨hs, hmeanings, hall⟩ | ⟨s, hunknown, hall⟩ := ih
      · rw [hmeanings, hall]
        exact .inl ⟨h :: hs, rfl, rfl⟩
      · rw [hunknown, hall]
        exact .inr ⟨s, rfl, rfl⟩
    · rw [hmeaning, hfind]
      exact .inr ⟨s, rfl, rfl⟩

/-- An operation that made no handle gives no name. -/
theorem HandleNames.means_skip {r : OpResult} (hr : op.bind? = none ∨ r.handle = none) (s : String) :
    names.lookup s = HandleRef.meaning? (done ++ [(op, r)]) (.name s) := by
  rw [HandleRef.meaning?_append, hnames s]
  obtain hbind | hhandle := hr
  · rw [hbind]
    rfl
  · rw [hhandle, ite_self, Option.none_or]

/-- An answered call gives its name to the handle in its reply. -/
theorem HandleNames.means_bind (kind : String) (reply : Reply) (s : String) :
    (names.bind op.bind? reply).lookup s =
      HandleRef.meaning? (done ++ [(op, .answered kind reply)]) (.name s) := by
  rw [HandleRef.meaning?_append, ← hnames s]
  exact names.lookup_bind op.bind? reply kind s

end

namespace TraceOp

variable {done : List (TraceOp × OpResult)} {table : HandleTable} {op : TraceOp} {hs : List Handle}
  {cause : ReplayCause}

/-- Where all references mean something, there is none that means nothing. -/
private theorem find?_isNone_of_meaning {refs : List HandleRef}
    (hmeaning : refs.map (HandleRef.meaning? done) = hs.map some) :
    (refs.find? fun ref => (ref.meaning? done).isNone) = none := by
  rw [List.find?_eq_none]
  intro ref hmem
  have hsome := List.mem_map_of_mem (f := HandleRef.meaning? done) hmem
  rw [hmeaning] at hsome
  obtain ⟨h, -, heq⟩ := List.mem_map.mp hsome
  rw [← heq]
  exact Bool.false_ne_true

/-- When an operation stops a replay whose references all mean something. -/
theorem stops_iff_of_meaning (hmeaning : op.refs.map (HandleRef.meaning? done) = hs.map some) :
    op.Stops done table cause ↔
      ∃ e, cause = .failedCall e.toCallError ∧ (∀ h ∈ hs, table.Accepts h) ∧
        op.refusal hs = some e := by
  constructor
  · intro hstops
    cases hstops with
    | unknownName hunknown =>
      rw [find?_isNone_of_meaning hmeaning] at hunknown
      cases hunknown
    | @refused hs' e hmeaning' haccepts hrefusal =>
      have heq : hs' = hs :=
        (List.map_inj_right fun _ _ => Option.some.inj).mp (hmeaning'.symm.trans hmeaning)
      subst heq
      exact ⟨e, rfl, haccepts, hrefusal⟩
  · rintro ⟨e, rfl, haccepts, hrefusal⟩
    exact .refused hmeaning haccepts hrefusal

/-- An operation with a reference that means nothing always stops a replay. -/
theorem stops_iff_of_unknown {s : String}
    (hunknown : (op.refs.find? fun ref => (ref.meaning? done).isNone) = some (.name s)) :
    op.Stops done table cause ↔ cause = .unknownName s := by
  constructor
  · intro hstops
    cases hstops with
    | unknownName hunknown' =>
      rw [hunknown] at hunknown'
      cases hunknown'
      rfl
    | refused hmeaning =>
      rw [find?_isNone_of_meaning hmeaning] at hunknown
      cases hunknown
  · rintro rfl
    exact .unknownName hunknown

end TraceOp

/-! ### A replay under way -/

/-- A replay that has come to `p` through the operations `done`: names mean what these say, and the
session is sound. -/
structure Replayer.Sound (done : List (TraceOp × OpResult)) (p : Replayer) : Prop where
  names : ∀ s, p.names.lookup s = HandleRef.meaning? done (.name s)
  session : p.session.Sound done.length

namespace Replayer.Sound

variable {done : List (TraceOp × OpResult)} {p : Replayer} {op : TraceOp}

theorem start (config : Config) : Sound [] (.start config) where
  names := fun _ => rfl
  session := .start config

/-! ### One operation -/

variable {hs : List Handle}

/-- After an operation that made no handle. -/
private theorem next (hp : Sound done p) {c : Session} (hc : c.Sound (done.length + 1))
    {r : OpResult} (hr : op.bind? = none ∨ r.handle = none) :
    Sound (done ++ [(op, r)]) { p with session := c } where
  names := HandleNames.means_skip hp.names hr
  session := by
    rw [List.length_append]
    exact hc

/-- After a call that was answered. -/
private theorem next_reply (hp : Sound done p) {c : Session} (hc : c.Sound (done.length + 1))
    (kind : String) (reply : Reply) :
    Sound (done ++ [(op, .answered kind reply)]) ⟨c, p.names.bind op.bind? reply⟩ where
  names := HandleNames.means_bind hp.names kind reply
  session := by
    rw [List.length_append]
    exact hc

/-- What an operation does whose references mean `hs`: it fails in the store, and all that it is
given may be used, or the replay goes on. -/
private inductive Outcome (done : List (TraceOp × OpResult)) (p : Replayer) (op : TraceOp)
    (hs : List Handle) : Except ReplayCause (OpResult × Replayer) → Prop
  | refused {e : StoreError} (haccepts : ∀ h ∈ hs, p.session.1.table.Accepts h)
    (hrefusal : op.refusal hs = some e) :
    Outcome done p op hs (.error (.failedCall e.toCallError))
  | goes {r : OpResult} {p' : Replayer} (hp' : Sound (done ++ [(op, r)]) p')
    (hrefusal : (∀ h ∈ hs, p.session.1.table.Accepts h) → op.refusal hs = none) :
    Outcome done p op hs (.ok (r, p'))

private theorem perform_call (hp : Sound done p) (hroom : done.length + 1 < Numeral.wordLimit)
    {r : Request} {bind : Option String} (hbind : op.bind? = bind) (hhs : r.handles = hs)
    (hrefusal : op.refusal hs = r.refusal) (kind : String) :
    Outcome done p op hs (Replayer.perform kind (.call r bind) p) := by
  subst hbind hhs
  have hnext : (Session.respond r p.session).2.Sound (done.length + 1) :=
    hp.session.apply (.call r) (by simp)
  have hcases := hp.session.respond_cases hroom r
  rw [Replayer.perform]
  generalize Session.respond r p.session = q at hnext hcases
  obtain ⟨a, c⟩ := q
  obtain ⟨e, rfl, haccepts, hrefuses⟩ | ⟨hfine, hnone⟩ := hcases
  · exact .refused haccepts (hrefusal.trans hrefuses)
  · have hfits := fun haccepts => hrefusal.trans (hnone haccepts)
    cases a with
    | ok reply => exact .goes (hp.next_reply hnext kind reply) hfits
    | error e =>
      cases e with
      | check e => exact .goes (hp.next hnext (.inr rfl)) hfits
      | call code text => exact absurd rfl (hfine code text)

private theorem perform (hp : Sound done p) (hroom : done.length + 1 < Numeral.wordLimit)
    {r : ResolvedOp} (hr : op.ResolvesTo hs r) (kind : String) :
    Outcome done p op hs (Replayer.perform kind r p) := by
  cases hr with
  | fromInt | dup | close | asInt | same | invoke =>
    refine hp.perform_call hroom ?_ ?_ ?_ kind <;> rfl
  | newGeneration =>
    exact .goes (hp.next (hp.session.apply .newGeneration (by simp)) (.inl rfl))
      fun _ => rfl
  | @rawUnwrap ref h =>
    have hnext : (Session.resolve h p.session).2.Sound (done.length + 1) :=
      hp.session.apply (.resolve h) (by simp)
    rw [Replayer.perform]
    generalize Session.resolve h p.session = q at hnext
    obtain ⟨a, c⟩ := q
    cases a <;> exact .goes (hp.next hnext (.inl rfl)) fun _ => rfl
  | @rawClose ref h =>
    have hnext : (Session.closeHandle h p.session).2.Sound (done.length + 1) :=
      hp.session.apply (.closeHandle h) (by simp)
    rw [Replayer.perform]
    generalize Session.closeHandle h p.session = q at hnext
    obtain ⟨a, c⟩ := q
    cases a <;> exact .goes (hp.next hnext (.inl rfl)) fun _ => rfl

/-- An operation stops a sound replay for the one cause that there is, or the replay goes on. -/
theorem step (hp : Sound done p) (hroom : done.length + 1 < Numeral.wordLimit) (op : TraceOp) :
    (∃ cause, p.step op = .error cause ∧
      ∀ cause', op.Stops done p.session.1.table cause' ↔ cause' = cause) ∨
    ∃ r p', p.step op = .ok (r, p') ∧ Sound (done ++ [(op, r)]) p' ∧
      ∀ cause, ¬op.Stops done p.session.1.table cause := by
  have hspec := HandleNames.resolve_spec p.names op
  -- Names are looked up before anything is checked, so an unknown one is the cause whatever else
  -- may be wrong with the operation.
  obtain ⟨hs, hmeaning, hall⟩ | ⟨s, hunknown, hall⟩ := HandleNames.findAll_cases hp.names op.refs
  · rw [hall] at hspec
    obtain ⟨r, hresolve, hr⟩ := hspec
    have hstep : p.step op = Replayer.perform op.name r p := by
      rw [Replayer.step, hresolve]
      rfl
    have houtcome := hp.perform hroom hr op.name
    simp only [TraceOp.stops_iff_of_meaning hmeaning, hstep]
    generalize Replayer.perform op.name r p = a at houtcome
    cases houtcome with
    | @refused e haccepts hrefusal =>
      refine .inl ⟨_, rfl, fun cause => ⟨?_, fun hcause => ⟨e, hcause, haccepts, hrefusal⟩⟩⟩
      rintro ⟨e', rfl, -, hrefusal'⟩
      rw [hrefusal] at hrefusal'
      cases hrefusal'
      rfl
    | goes hp' hnone =>
      refine .inr ⟨_, _, rfl, hp', fun cause => ?_⟩
      rintro ⟨e, -, haccepts, hrefusal⟩
      rw [hnone haccepts] at hrefusal
      cases hrefusal
  · rw [hall] at hspec
    refine .inl ⟨.unknownName s, ?_, fun cause => TraceOp.stops_iff_of_unknown hunknown⟩
    rw [Replayer.step, hspec]
    rfl

theorem step_error_iff (hp : Sound done p) (hroom : done.length + 1 < Numeral.wordLimit)
    (op : TraceOp) (cause : ReplayCause) :
    p.step op = .error cause ↔ op.Stops done p.session.1.table cause := by
  obtain ⟨cause', hstep, hstops⟩ | ⟨r, p', hstep, -, hgoes⟩ := hp.step hroom op
  · rw [hstep, hstops, Except.error.injEq, eq_comm]
  · exact iff_of_false (by simp [hstep]) (hgoes cause)

theorem step_ok (hp : Sound done p) (hroom : done.length + 1 < Numeral.wordLimit) {r : OpResult}
    {p' : Replayer} (hstep : p.step op = .ok (r, p')) : Sound (done ++ [(op, r)]) p' := by
  obtain ⟨cause, hstep', -⟩ | ⟨r', p'', hstep', hp', -⟩ := hp.step hroom op
  · rw [hstep] at hstep'
    cases hstep'
  · rw [hstep] at hstep'
    cases hstep'
    exact hp'

end Replayer.Sound

/-! ### A run -/

namespace Replayer

variable {index : Nat} {op : TraceOp} {ops : List TraceOp} {p p' : Replayer} {r : OpResult}
  {done : List (TraceOp × OpResult)}

theorem run_cons_eq_error_iff {e : ReplayError} : run index (op :: ops) p = .error e ↔
    (e.op = op ∧ e.index = index ∧ p.step op = .error e.cause) ∨
    ∃ r p', p.step op = .ok (r, p') ∧ run (index + 1) ops p' = .error e := by
  obtain ⟨i, op', cause⟩ := e
  rw [run]
  cases p.step op with
  | error cause' => simp [eq_comm, and_comm, and_assoc]
  | ok a =>
    obtain ⟨r, p'⟩ := a
    cases hrest : run (index + 1) ops p' <;> simp [hrest]

theorem run_cons_eq_ok_iff {results : List OpResult} {q : Replayer} :
    run index (op :: ops) p = .ok (results, q) ↔ ∃ r p' results', p.step op = .ok (r, p') ∧
      run (index + 1) ops p' = .ok (results', q) ∧ results = r :: results' := by
  rw [run]
  cases p.step op with
  | error cause => simp
  | ok a =>
    obtain ⟨r, p'⟩ := a
    cases hrest : run (index + 1) ops p' with
    | error e => simp [hrest]
    | ok a =>
      obtain ⟨results', q'⟩ := a
      simp [hrest, eq_comm, and_comm]

/-- A run that ends has a result for each operation. -/
theorem length_of_run {results : List OpResult} {q : Replayer}
    (hrun : run index ops p = .ok (results, q)) : results.length = ops.length := by
  induction ops generalizing index p results with
  | nil =>
    cases hrun
    rfl
  | cons op ops ih =>
    obtain ⟨r, p', results', -, hrest, rfl⟩ := run_cons_eq_ok_iff.mp hrun
    exact congrArg Nat.succ (ih hrest)

/-- A replay is stopped by the next operation, or by one that comes after it. -/
theorem stopsAt_cons {e : ReplayError} : p.StopsAt done index (op :: ops) e ↔
    (e.op = op ∧ e.index = index ∧ op.Stops done p.session.1.table e.cause) ∨
    ∃ r p', p.step op = .ok (r, p') ∧ p'.StopsAt (done ++ [(op, r)]) (index + 1) ops e := by
  constructor
  · rintro ⟨before, after, results, q, hops, hindex, hrun, hstop⟩
    cases before with
    | nil =>
      cases hops
      cases hrun
      rw [List.zip_nil_right, List.append_nil] at hstop
      exact .inl ⟨rfl, hindex, hstop⟩
    | cons op' before =>
      cases hops
      obtain ⟨r, p', results', hstep, hrest, rfl⟩ := run_cons_eq_ok_iff.mp hrun
      rw [List.zip_cons_cons, List.append_cons] at hstop
      refine .inr ⟨r, p', hstep, before, after, results', q, rfl, ?_, hrest, hstop⟩
      rw [hindex, List.length_cons]
      omega
  · rintro (⟨rfl, hindex, hstop⟩ |
      ⟨r, p', hstep, before, after, results, q, rfl, hindex, hrun, hstop⟩)
    · refine ⟨[], ops, [], p, rfl, hindex, rfl, ?_⟩
      rw [List.zip_nil_right, List.append_nil]
      exact hstop
    · refine ⟨op :: before, after, r :: results, q, rfl, ?_,
        run_cons_eq_ok_iff.mpr ⟨r, p', results, hstep, hrun, rfl⟩, ?_⟩
      · rw [hindex, List.length_cons]
        omega
      · rw [List.zip_cons_cons, List.append_cons]
        exact hstop

/-- A run stops where an operation does, after all operations before it. -/
theorem Sound.run_error_iff (hp : Sound done p)
    (hroom : done.length + ops.length < Numeral.wordLimit) (index : Nat) (e : ReplayError) :
    run index ops p = .error e ↔ p.StopsAt done index ops e := by
  -- Induction on the operations. Each one that does not stop the replay moves on to `done`.
  induction ops generalizing done p index with
  | nil => simp [run, StopsAt]
  | cons op ops ih =>
    rw [List.length_cons] at hroom
    have hfirst := hp.step_error_iff (by omega) op e.cause
    rw [run_cons_eq_error_iff, stopsAt_cons, hfirst]
    refine or_congr_right (exists_congr fun r => exists_congr fun p' => ?_)
    refine and_congr_right fun hstep => ?_
    have hp' : Sound (done ++ [(op, r)]) p' := hp.step_ok (by omega) hstep
    exact ih hp' (by rw [List.length_append, List.length_singleton]; omega) (index + 1)

end Replayer

/-! ### Traces -/

/-- Few operations have to work on objects. -/
theorem TraceOp.kind_of_refusal {op : TraceOp} {hs : List Handle} {e : StoreError}
    (hrefusal : op.refusal hs = some e) : (∃ ref bind, op = .dup ref bind) ∨
      (∃ ref, op = .asInt ref) ∨ ∃ op' args bind, op = .invoke op' args bind := by
  cases op with
  | dup ref bind => exact .inl ⟨ref, bind, rfl⟩
  | asInt ref => exact .inr (.inl ⟨ref, rfl⟩)
  | invoke op args bind => exact .inr (.inr ⟨op, args, bind, rfl⟩)
  | _ => cases hrefusal

/-- **A replay stops only where it must.** It stops at an operation iff all operations before it
were replayed and the operation names a handle that none of them bound, or is given null or open
handles only and has nothing to work on: it duplicates or reads null, or invokes an operation that
does not exist, with the wrong number of arguments, or on null. Otherwise each operation has one
result. A trace has no more operations than a word can count, so addresses do not run out. -/
theorem replay_stops_iff {trace : Trace} (hlength : trace.ops.length < 2 ^ 64) (config : Config) :
    (∀ e, replay trace config = .error e ↔
      (Replayer.start config).StopsAt [] 0 trace.ops e) ∧
    (∀ report, replay trace config = .ok report → report.results.length = trace.ops.length) ∧
    ∀ e, replay trace config = .error e →
      (∃ s, e.cause = .unknownName s ∧ .name s ∈ e.op.refs) ∨ (∃ ref bind, e.op = .dup ref bind) ∨
        (∃ ref, e.op = .asInt ref) ∨ ∃ op args bind, e.op = .invoke op args bind := by
  have hroom : ([] : List (TraceOp × OpResult)).length + trace.ops.length < Numeral.wordLimit := by
    rw [List.length_nil, Nat.zero_add]
    exact hlength
  have hstops : ∀ e, replay trace config = .error e ↔
      (Replayer.start config).StopsAt [] 0 trace.ops e := by
    intro e
    rw [← (Replayer.Sound.start config).run_error_iff hroom 0, replay]
    cases Replayer.run 0 trace.ops (.start config) <;> simp
  refine ⟨hstops, fun report hreport => ?_, fun e herror => ?_⟩
  · rw [replay] at hreport
    cases hrun : Replayer.run 0 trace.ops (.start config) with
    | error e =>
      rw [hrun] at hreport
      cases hreport
    | ok a =>
      rw [hrun] at hreport
      cases hreport
      exact Replayer.length_of_run hrun
  · obtain ⟨before, after, results, p, -, -, -, hstop⟩ := (hstops e).mp herror
    obtain ⟨index, op, cause⟩ := e
    cases hstop with
    | @unknownName s hunknown => exact .inl ⟨s, rfl, List.mem_of_find?_eq_some hunknown⟩
    | refused hmeaning haccepts hrefusal => exact .inr (TraceOp.kind_of_refusal hrefusal)

/-- The object of `a` is lost, a handle is forged, and a duplicate of `a` fails, as does an
operation that does not exist, since `a` is closed. None of this stops the replay, and to add null
does. -/
theorem replay_stops_iff_forged :
    let trace : Trace := ⟨[.fromInt 7 (some "a"), .rawClose (.name "a"), .asInt (.raw ⟨0xdead⟩),
      .dup (.name "a") (some "b"), .fromInt 8 (some "c"), .same (.raw .null) (.raw .null),
      .close (.raw .null), .invoke ⟨9⟩ [.name "a"] none,
      .invoke ObjectStore.addOp [.name "c", .raw .null] none, .asInt (.name "b")]⟩
    let e : ReplayError := ⟨8, .invoke ObjectStore.addOp [.name "c", .raw .null] none,
      .failedCall (StoreError.noObject .null).toCallError⟩
    trace.ops.length < 2 ^ 64 ∧ replay trace .default = .error e ∧
      (Replayer.start .default).StopsAt [] 0 trace.ops e := by
  intro trace e
  have hlength : trace.ops.length < 2 ^ 64 := by decide
  have herror : replay trace .default = .error e := by decide +kernel
  exact ⟨hlength, herror, ((replay_stops_iff hlength .default).1 e).mp herror⟩

end HandleGuard
