import HandleGuard.Proofs.Replay.Issues
import Mathlib.Data.List.Find

/-!
# A replay finds what is wrong in a trace

A replay that reads no handle by number agrees with the lives of handles that are told of its trace
alone: it goes as far, it answers the same, and it leaves the same handles open. The agreement is
carried by `Follows`, which ties a replay under way to the trace up to there.

* `Follows.perform_open`, `Follows.perform_closed`   one operation whose references are resolved
* `Follows.step`, `Follows.run`                      one operation, and a run of operations
* `replay_exact`                                     the report
-/

namespace HandleGuard

/-! ### Names -/

/-- The operation, given the handles `hs`, resolves to this. -/
inductive TraceOp.ResolvesTo : TraceOp → List Handle → ResolvedOp → Prop
  | fromInt {v : Int64} {bind : Option String} :
    ResolvesTo (.fromInt v bind) [] (.call (.fromInt v) bind)
  | dup {ref : HandleRef} {h : Handle} {bind : Option String} :
    ResolvesTo (.dup ref bind) [h] (.call (.dup h) bind)
  | close {ref : HandleRef} {h : Handle} : ResolvesTo (.close ref) [h] (.call (.close h) none)
  | asInt {ref : HandleRef} {h : Handle} : ResolvesTo (.asInt ref) [h] (.call (.asInt h) none)
  | same {ref ref' : HandleRef} {h h' : Handle} :
    ResolvesTo (.same ref ref') [h, h'] (.call (.same h h') none)
  | invoke {op : OpId} {refs : List HandleRef} {hs : List Handle} {bind : Option String} :
    ResolvesTo (.invoke op refs bind) hs (.call (.invoke op hs) bind)
  | newGeneration : ResolvesTo .newGeneration [] .newGeneration
  | rawUnwrap {ref : HandleRef} {h : Handle} : ResolvesTo (.rawUnwrap ref) [h] (.unwrap h)
  | rawClose {ref : HandleRef} {h : Handle} : ResolvesTo (.rawClose ref) [h] (.close h)

/-- The references of an operation are resolved from left to right. The rest of it stays as it
is. -/
theorem HandleNames.resolve_spec (names : HandleNames) (op : TraceOp) :
    match names.findAll op.refs with
    | .error cause => names.resolve op = .error cause
    | .ok hs => ∃ r, names.resolve op = .ok r ∧ op.ResolvesTo hs r := by
  cases op with
  | fromInt v bind => exact ⟨_, rfl, .fromInt⟩
  | newGeneration => exact ⟨_, rfl, .newGeneration⟩
  | invoke op args bind =>
    simp only [TraceOp.refs, resolve]
    cases names.findAll args with
    | error cause => rfl
    | ok hs => exact ⟨_, rfl, .invoke⟩
  | same a b =>
    simp only [TraceOp.refs, resolve, findAll]
    cases names.find a with
    | error cause => rfl
    | ok h =>
      cases names.find b with
      | error cause => rfl
      | ok h' => exact ⟨_, rfl, .same⟩
  | dup ref _ | close ref | asInt ref | rawUnwrap ref | rawClose ref =>
    simp only [TraceOp.refs, resolve, findAll]
    cases names.find ref with
    | error cause => rfl
    | ok h => exact ⟨_, rfl, by constructor⟩

/-- Whether an operation names all its handles. -/
def TraceOp.ByName (op : TraceOp) : Prop := ∀ ref ∈ op.refs, ∃ s, ref = .name s

/-! ### The log -/

namespace DiagnosticLog

/-- Nothing was ever written to the log. -/
def Untouched (log : DiagnosticLog) : Prop := log.snapshot = [] ∧ log.dropped = 0

theorem not_untouched_push (log : DiagnosticLog) (d : Diagnostic) : ¬(log.push d).Untouched := by
  rintro ⟨hsnapshot, -⟩
  rw [snapshot, push] at hsnapshot
  split at hsnapshot
  · split at hsnapshot <;> simp at hsnapshot
  · simp at hsnapshot

end DiagnosticLog

theorem DebugContext.not_untouched_record (d : DebugContext) (e : DebugError) :
    ¬(d.record e).log.Untouched := by
  rw [record]
  split <;> exact DiagnosticLog.not_untouched_push _ _

/-! ### A replay under way -/

/-- A replay that has come to `p` with these results has made the issues `js` and closed the issues
`ks` of them, and the trace up to there is `w`. -/
structure Follows (config : Config) (w : Lifetimes) (results : List OpResult)
    (js ks : List Issue) (p : Replayer) : Prop where
  count : w.count = results.length
  made : w.made = js.map Issue.production
  closed : w.closed = ks.map Issue.production
  names : ∃ ns : List (String × Issue), (∀ n ∈ ns, n.2 ∈ js) ∧
    w.names = ns.map (fun n => (n.1, n.2.production)) ∧
    p.names = ns.map fun n => (n.1, n.2.debug)
  made_le : js.length ≤ results.length
  answered : ∀ j ∈ js, results[j.production.origin]?.bind OpResult.handle = some j.debug
  object_lt : ∀ j ∈ js, j.production.object < results.length
  generation : p.session.1.table.leakGeneration = w.generation
  untouched : p.session.1.log.Untouched ↔ ∀ r ∈ results, r.error = none
  lives : Lives config js ks p.session

namespace Follows

variable {config : Config} {w : Lifetimes} {results : List OpResult} {js ks is : List Issue}
  {p : Replayer} {d : DebugContext} {st : ObjectStore} {names : HandleNames} {op : TraceOp}
  {j k : Issue}

theorem start (config : Config) : Follows config .start [] [] [] (.start config) where
  count := rfl
  made := rfl
  closed := rfl
  names := ⟨[], nofun, rfl, rfl⟩
  made_le := Nat.le_refl 0
  answered := nofun
  object_lt := nofun
  generation := rfl
  untouched := ⟨fun _ => nofun, fun _ => ⟨rfl, rfl⟩⟩
  lives := {
    table := HandleTable.withCapacity_shortHistory _ _ _
    capacity := rfl
    closedQueueMax := rfl
    hook := rfl
    store := ObjectStore.empty_wellFormed
    size_le := Nat.le_refl 0
    covers := ObjectStore.Covers.empty.mono False.elim
    closed_made := nofun
    value := nofun
    object := nofun }

/-! ### References -/

/-- A name means an issue in the trace and in the replay, or it means nothing in either. -/
theorem find (hf : Follows config w results js ks p) (s : String) :
    (w.find? (.name s) = none ∧ p.names.find (.name s) = .error (.unknownName s)) ∨
    ∃ j ∈ js, w.find? (.name s) = some j.production ∧ p.names.find (.name s) = .ok j.debug := by
  obtain ⟨ns, hmem, hw, hp⟩ := hf.names
  rw [Lifetimes.find?, HandleNames.find, hw, hp, List.lookup_map_snd, List.lookup_map_snd]
  cases hlookup : ns.lookup s with
  | none => exact .inl ⟨rfl, rfl⟩
  | some j => exact .inr ⟨j, hmem _ (List.mem_of_lookup hlookup), rfl, rfl⟩

theorem findAll (hf : Follows config w results js ks p) {refs : List HandleRef}
    (hrefs : ∀ ref ∈ refs, ∃ s, ref = .name s) :
    (refs.mapM w.find? = none ∧ ∃ cause, p.names.findAll refs = .error cause) ∨
    ∃ is : List Issue, (∀ i ∈ is, i ∈ js) ∧ refs.mapM w.find? = some (is.map Issue.production) ∧
      p.names.findAll refs = .ok (is.map Issue.debug) := by
  induction refs with
  | nil => exact .inr ⟨[], nofun, rfl, rfl⟩
  | cons ref refs ih =>
    obtain ⟨s, rfl⟩ := hrefs _ List.mem_cons_self
    rw [List.mapM_cons, HandleNames.findAll]
    obtain ⟨hw, hp⟩ | ⟨j, hj, hw, hp⟩ := hf.find s
    · rw [hw, hp]
      exact .inl ⟨rfl, _, rfl⟩
    · obtain ⟨hws, cause, hps⟩ | ⟨is, his, hws, hps⟩ :=
        ih fun ref' hmem => hrefs ref' (List.mem_cons_of_mem _ hmem)
      · rw [hw, hp, hws, hps]
        exact .inl ⟨rfl, _, rfl⟩
      · rw [hw, hp, hws, hps]
        refine .inr ⟨j :: is, fun i hi => ?_, rfl, rfl⟩
        rcases List.mem_cons.mp hi with rfl | hi
        · exact hj
        · exact his i hi

/-! ### Closed productions -/

/-- Issues with the same production have the same result, and so the same handle. -/
theorem eq_of_production (hf : Follows config w results js ks p) (hj : j ∈ js) (hk : k ∈ js)
    (h : j.production = k.production) : j = k := by
  have hjk := (hf.answered j hj).symm.trans (h ▸ hf.answered k hk)
  exact hf.lives.eq_of_debug hj hk (Option.some.inj hjk)

theorem production_mem_iff (hf : Follows config w results js ks p) (hj : j ∈ js) {ls : List Issue}
    (hls : ∀ l ∈ ls, l ∈ ks) : j.production ∈ ls.map Issue.production ↔ j ∈ ls := by
  rw [List.mem_map]
  constructor
  · rintro ⟨l, hl, heq⟩
    exact hf.eq_of_production (hf.lives.closed_made l (hls l hl)) hj heq ▸ hl
  · exact fun hj' => ⟨j, hj', rfl⟩

theorem firstClosed (hf : Follows config w results js ks p) (his : ∀ i ∈ is, i ∈ js) :
    w.firstClosed (is.map Issue.production) = (is.find? (· ∈ ks)).map Issue.production := by
  rw [Lifetimes.firstClosed, List.find?_map, hf.closed]
  congr 1
  refine List.find?_congr fun i hi => ?_
  exact decide_eq_decide.mpr (hf.production_mem_iff (his i hi) fun _ => id)

/-- The trace tells the error that the table gives for a closed handle. -/
theorem misuse (hf : Follows config w results js ks p) (hk : k ∈ js) (op : TraceOp) :
    w.misuse config.closedQueueMax op k.production =
      HandleTable.refusal config.closedQueueMax (ks.map Issue.debug)
        (if op.closes then .doubleClose else .useAfterClose) k.debug := by
  have htake : ∀ l ∈ ks.take config.closedQueueMax, l ∈ ks := fun _ => List.mem_of_mem_take
  rw [Lifetimes.misuse, HandleTable.refusal, hf.closed, ← List.map_take, ← List.map_take]
  simp only [hf.production_mem_iff hk htake, hf.lives.mem_closedHandles_iff hk htake]

theorem leaked (hf : Follows config w results js ks p) :
    w.leaked = (js.filter (· ∉ ks)).map Issue.production := by
  rw [Lifetimes.leaked, hf.made, hf.closed, List.filter_map]
  congr 1
  refine List.filter_congr fun j hj => ?_
  exact decide_eq_decide.mpr (not_congr (hf.production_mem_iff hj fun _ => id))

/-- The open handles are those of the productions that were never closed. -/
theorem openHandles (hf : Follows config w results js ks p) :
    ((p.session.1.openHandles 0).map fun l => some l.handle).Perm
      (w.leaked.map fun q => results[q.origin]?.bind OpResult.handle) := by
  have hperm := (hf.lives.table.bindings.map Prod.fst).map some
  rw [HandleTable.map_fst_bindings, List.map_map, List.map_map, List.filter_map, List.map_map]
    at hperm
  refine hperm.trans (.of_eq ?_)
  have hopen : js.filter (fun j => decide (j.debug ∉ ks.map Issue.debug)) = js.filter (· ∉ ks) :=
    List.filter_congr fun j hj => decide_eq_decide.mpr (not_congr (hf.lives.debug_mem_iff hj))
  rw [hf.leaked, List.map_map]
  refine (congrArg (List.map _) hopen).trans (List.map_congr_left fun j hj => ?_)
  exact (hf.answered j (List.mem_of_mem_filter hj)).symm

/-! ### One operation -/

theorem answered_append (hf : Follows config w results js ks p) (r : OpResult) (hj : j ∈ js) :
    (results ++ [r])[j.production.origin]?.bind OpResult.handle = some j.debug := by
  have hanswered := hf.answered j hj
  have hlt : j.production.origin < results.length := by
    by_contra hge
    rw [List.getElem?_eq_none (Nat.le_of_not_lt hge)] at hanswered
    exact nomatch hanswered
  rw [List.getElem?_append_left hlt]
  exact hanswered

theorem untouched_append (hf : Follows config w results js ks p) {r : OpResult}
    {log : DiagnosticLog} (hlog : log = p.session.1.log ∧ r.error = none ∨
      ¬log.Untouched ∧ r.error ≠ none) :
    log.Untouched ↔ ∀ r' ∈ results ++ [r], r'.error = none := by
  rw [List.forall_mem_append, List.forall_mem_singleton, ← hf.untouched]
  obtain ⟨rfl, hnone⟩ | ⟨htouched, hsome⟩ := hlog
  · exact (and_iff_left hnone).symm
  · exact iff_of_false htouched fun h => hsome h.2

/-- After an operation that made no handle. -/
theorem next (hf : Follows config w results js ks p) {c : Session} {r : OpResult}
    (hlives : Lives config js is c) (hlog : c.1.log = p.session.1.log ∧ r.error = none ∨
      ¬c.1.log.Untouched ∧ r.error ≠ none) :
    Follows config { w.skip with
        closed := is.map Issue.production, generation := c.1.table.leakGeneration }
      (results ++ [r]) js is ⟨c, p.names⟩ where
  count := by
    rw [List.length_append, List.length_singleton, ← hf.count]
    rfl
  made := hf.made
  closed := rfl
  names := hf.names
  made_le := by
    rw [List.length_append]
    exact Nat.le_add_right_of_le hf.made_le
  answered := fun j hj => hf.answered_append r hj
  object_lt := fun j hj => by
    rw [List.length_append]
    exact Nat.lt_add_right 1 (hf.object_lt j hj)
  generation := rfl
  untouched := hf.untouched_append hlog
  lives := hlives

/-- After an operation that closed an issue. -/
theorem closing (hf : Follows config w results js ks p) {c : Session} {r : OpResult}
    (hlives : Lives config js (j :: ks) c)
    (hgeneration : c.1.table.leakGeneration = p.session.1.table.leakGeneration)
    (hlog : c.1.log = p.session.1.log ∧ r.error = none ∨ ¬c.1.log.Untouched ∧ r.error ≠ none) :
    Follows config { w.skip with closed := j.production :: w.closed } (results ++ [r]) js (j :: ks)
      ⟨c, p.names⟩ := by
  have hnext := hf.next hlives hlog
  rw [List.map_cons, ← hf.closed, hgeneration, hf.generation] at hnext
  exact hnext

/-- After an operation that closed nothing either. -/
theorem skip (hf : Follows config w results js ks p) {c : Session} {r : OpResult}
    (hlives : Lives config js ks c)
    (hgeneration : c.1.table.leakGeneration = p.session.1.table.leakGeneration)
    (hlog : c.1.log = p.session.1.log ∧ r.error = none ∨ ¬c.1.log.Untouched ∧ r.error ≠ none) :
    Follows config w.skip (results ++ [r]) js ks ⟨c, p.names⟩ := by
  have hnext := hf.next hlives hlog
  rw [← hf.closed, hgeneration, hf.generation] at hnext
  exact hnext

/-- After an operation that made a handle. -/
theorem produce (hf : Follows config w results js ks p) {c : Session} {object : Nat}
    {value : Int64} {h u : Handle} {kind : String}
    (hlives : Lives config (js ++ [⟨⟨w.count, object, value⟩, h, u⟩]) ks c)
    (hobject : object ≤ w.count) (hlog : c.1.log = p.session.1.log)
    (hgeneration : c.1.table.leakGeneration = p.session.1.table.leakGeneration)
    (bind : Option String) :
    Follows config (w.produce bind object value) (results ++ [.answered kind (.handle h)])
      (js ++ [⟨⟨w.count, object, value⟩, h, u⟩]) ks ⟨c, p.names.bind bind (.handle h)⟩ where
  count := by
    rw [List.length_append, List.length_singleton, ← hf.count]
    rfl
  made := by
    rw [List.map_append, ← hf.made]
    rfl
  closed := hf.closed
  names := by
    obtain ⟨ns, hmem, hw, hp⟩ := hf.names
    have hold : ∀ n ∈ ns, n.2 ∈ js ++ [⟨⟨w.count, object, value⟩, h, u⟩] := fun n hn =>
      List.mem_append_left _ (hmem n hn)
    cases bind with
    | none => exact ⟨ns, hold, hw, hp⟩
    | some s =>
      refine ⟨(s, ⟨⟨w.count, object, value⟩, h, u⟩) :: ns, fun n hn => ?_, ?_, ?_⟩
      · rcases List.mem_cons.mp hn with rfl | hn
        · exact List.mem_append_right js List.mem_cons_self
        · exact hold n hn
      · rw [List.map_cons, ← hw]
        rfl
      · rw [List.map_cons, ← hp]
        rfl
  made_le := by
    rw [List.length_append, List.length_append]
    exact Nat.add_le_add_right hf.made_le 1
  answered := fun j hj => by
    rcases List.mem_append.mp hj with hj | hj
    · exact hf.answered_append _ hj
    · rw [List.mem_singleton.mp hj]
      show (results ++ [_])[w.count]?.bind OpResult.handle = some h
      rw [hf.count, List.getElem?_concat_length]
      rfl
  object_lt := fun j hj => by
    rw [List.length_append, List.length_singleton]
    rcases List.mem_append.mp hj with hj | hj
    · exact Nat.lt_succ_of_lt (hf.object_lt j hj)
    · rw [List.mem_singleton.mp hj, ← hf.count]
      exact Nat.lt_succ_of_le hobject
  generation := hgeneration.trans hf.generation
  untouched := hf.untouched_append (.inl ⟨hlog, rfl⟩)
  lives := hlives

end Follows

/-- A replay with the results `results` performs an operation: the answer is `expected` but for the
handle, and the trace goes on as the replay does. -/
inductive Proceeds (config : Config) (results : List OpResult) (expected : OpResult) :
    Option Lifetimes → Except ReplayCause (OpResult × Replayer) → Prop
  | stops {cause : ReplayCause} : Proceeds config results expected none (.error cause)
  | goes {w : Lifetimes} {r : OpResult} {p : Replayer} {js ks : List Issue}
    (hresult : r.withoutHandle = expected) (hf : Follows config w (results ++ [r]) js ks p) :
    Proceeds config results expected (some w) (.ok (r, p))

namespace Follows

variable {config : Config} {w : Lifetimes} {results : List OpResult} {js ks is : List Issue}
  {p : Replayer} {d : DebugContext} {st st' : ObjectStore} {names : HandleNames} {op : TraceOp}
  {j k : Issue} {r : Request} {kind : String}

/-- A call that makes a handle is a production. -/
theorem brings (hf : Follows config w results js ks ⟨(d, st), names⟩)
    (hroom : js.length < Handle.maxSlots) (his : ∀ i ∈ is, i ∈ js)
    (hopen : is.find? (· ∈ ks) = none) (hr : r.handles = is.map Issue.debug)
    (hclose : ∀ h, r ≠ .close h) {u : Handle} {object : Nat} {value : Int64}
    (hres : ObjectStore.respond (r.withHandles (is.map Issue.universal)) st = (.ok (.handle u), st'))
    (hb : Lives.Brings js ks st st' u object value) (hobject : object ≤ w.count)
    (bind : Option String) :
    Proceeds config results (.plain kind) (some (w.produce bind object value))
      (Replayer.perform kind (.call r bind) ⟨(d, st), names⟩) := by
  obtain ⟨h, d', hcall, hlives, hlog, hgeneration⟩ :=
    hf.lives.respond_brings his hopen hr hclose hres hb hroom w.count
  rw [Replayer.perform, hcall]
  exact .goes rfl (hf.produce hlives hobject hlog hgeneration bind)

/-- A call that only reads changes nothing. -/
theorem reads (hf : Follows config w results js ks ⟨(d, st), names⟩) (his : ∀ i ∈ is, i ∈ js)
    (hopen : is.find? (· ∈ ks) = none) (hr : r.handles = is.map Issue.debug)
    (hclose : ∀ h, r ≠ .close h) {reply : Reply}
    (hres : ObjectStore.respond (r.withHandles (is.map Issue.universal)) st =
      (.ok reply, st.counted)) (hreply : ∀ h, reply ≠ .handle h) :
    Proceeds config results (OpResult.answered kind reply).withoutHandle (some w.skip)
      (Replayer.perform kind (.call r none) ⟨(d, st), names⟩) := by
  have hcall := hf.lives.respond_read his hopen hr hclose hres (by simpa using hreply)
  have herror : (OpResult.answered kind reply).error = none := by cases reply <;> rfl
  rw [Replayer.perform, hcall]
  exact .goes rfl (hf.skip hf.lives.counted rfl (.inl ⟨rfl, herror⟩))

/-- Objects are numbered by the operations that made them, and this one made none yet. -/
theorem object_ne (hf : Follows config w results js ks p) :
    ∀ j ∈ js, j.production.object ≠ w.count :=
  fun j hj => Nat.ne_of_lt (hf.count ▸ hf.object_lt j hj)

theorem not_mem_of_find? (hopen : is.find? (· ∈ ks) = none) : ∀ i ∈ is, i ∉ ks := by
  simpa using hopen

/-- `invoke` makes an object of the value that it computes, or the replay stops. -/
theorem invoke (hf : Follows config w results js ks ⟨(d, st), names⟩)
    (hroom : js.length < Handle.maxSlots) (his : ∀ i ∈ is, i ∈ js)
    (hopen : is.find? (· ∈ ks) = none) (op : OpId) (refs : List HandleRef) (bind : Option String) :
    Proceeds config results (.plain kind)
      (w.perform (.invoke op refs bind) (is.map Issue.production))
      (Replayer.perform kind (.call (.invoke op (is.map Issue.debug)) bind) ⟨(d, st), names⟩) := by
  have hl := hf.lives
  have hcompute := hl.compute his (not_mem_of_find? hopen) op
  have hres := ObjectStore.respond_invoke st op (is.map Issue.universal)
  rw [Lifetimes.perform]
  cases hvalue : Lifetimes.compute op ((is.map Issue.production).map Production.value) with
  | some v =>
    rw [hvalue] at hcompute
    rw [hcompute] at hres
    obtain ⟨u, st', hmade, hb⟩ := hl.create hroom v hf.object_ne
    exact hf.brings (r := .invoke op (is.map Issue.debug)) hroom his hopen rfl nofun
      (hres.trans hmade) hb (Nat.le_refl _) bind
  | none =>
    rw [hvalue] at hcompute
    obtain ⟨e, hcompute⟩ := hcompute
    rw [hcompute] at hres
    have hcall := hl.respond_read (r := .invoke op (is.map Issue.debug)) his hopen rfl nofun hres
      nofun
    rw [Replayer.perform, hcall]
    exact .stops

/-- The table counts the leak generations as the trace does. -/
theorem newGeneration (hf : Follows config w results js ks ⟨(d, st), names⟩) :
    Proceeds config results (w.reading .newGeneration []) (w.perform .newGeneration [])
      (Replayer.perform TraceOp.newGeneration.name .newGeneration ⟨(d, st), names⟩) := by
  have hgeneration : d.newGeneration.2.table.leakGeneration = w.generation + 1 :=
    congrArg (· + 1) hf.generation
  have hnext := hf.next (r := { OpResult.plain TraceOp.newGeneration.name with
    value := some (d.table.leakGeneration + 1).toInt64 }) hf.lives.newGeneration (.inl ⟨rfl, rfl⟩)
  rw [← hf.closed, hgeneration] at hnext
  refine .goes ?_ hnext
  show _ = { OpResult.plain _ with value := some (w.generation + 1).toInt64 }
  rw [← hgeneration]
  rfl

/-- An operation on open issues does what the trace tells. -/
theorem perform_open (hf : Follows config w results js ks ⟨(d, st), names⟩)
    (hroom : js.length < Handle.maxSlots) (his : ∀ i ∈ is, i ∈ js)
    (hopen : is.find? (· ∈ ks) = none) {r : ResolvedOp} (hr : op.ResolvesTo (is.map Issue.debug) r) :
    Proceeds config results (w.reading op (is.map Issue.production))
      (w.perform op (is.map Issue.production))
      (Replayer.perform op.name r ⟨(d, st), names⟩) := by
  have hl := hf.lives
  have hall := not_mem_of_find? hopen
  generalize hhs : is.map Issue.debug = hs at hr
  cases hr with
  | @fromInt v bind =>
    obtain rfl := List.map_eq_nil_iff.mp hhs
    obtain ⟨u, st', hres, hb⟩ := hl.create hroom v hf.object_ne
    exact hf.brings (r := .fromInt v) hroom his hopen rfl nofun hres hb (Nat.le_refl _) bind
  | @dup ref h bind =>
    obtain ⟨j, rfl, rfl⟩ := List.map_eq_singleton_iff.mp hhs
    have hj := his j List.mem_cons_self
    obtain ⟨st', hres, hb⟩ := hl.dup hj (hall j List.mem_cons_self)
    exact hf.brings (r := .dup j.debug) hroom his hopen rfl nofun hres hb
      (Nat.le_of_lt (hf.count ▸ hf.object_lt j hj)) bind
  | @invoke op refs hs bind =>
    subst hhs
    exact hf.invoke hroom his hopen op refs bind
  | @asInt ref h =>
    obtain ⟨j, rfl, rfl⟩ := List.map_eq_singleton_iff.mp hhs
    have hj := his j List.mem_cons_self
    have hvalue := hl.value j hj (hall j List.mem_cons_self)
    have hres := ObjectStore.respond_asInt st j.universal
    rw [ObjectStore.value_eq_value?, hvalue] at hres
    exact hf.reads (r := .asInt j.debug) his hopen rfl nofun hres nofun
  | @same ref ref' h h' =>
    obtain ⟨i, is, rfl, rfl, hrest⟩ := List.map_eq_cons_iff.mp hhs
    obtain ⟨j, rfl, rfl⟩ := List.map_eq_singleton_iff.mp hrest
    have hi : i ∈ [i, j] := List.mem_cons_self
    have hj : j ∈ [i, j] := List.mem_cons_of_mem i List.mem_cons_self
    have hobject : (i.universal == j.universal) =
        (i.production.object == j.production.object) := by
      rw [Bool.eq_iff_iff, beq_iff_eq, beq_iff_eq]
      exact hl.object i (his i hi) (hall i hi) j (his j hj) (hall j hj)
    have hres := ObjectStore.respond_same i.universal j.universal st
    rw [hobject] at hres
    exact hf.reads (r := .same i.debug j.debug) his hopen rfl nofun hres nofun
  | @close ref h =>
    obtain ⟨j, rfl, rfl⟩ := List.map_eq_singleton_iff.mp hhs
    have hj := his j List.mem_cons_self
    obtain ⟨d', st', hcall, hlives, hlog, hgeneration⟩ := hl.close hj (hall j List.mem_cons_self)
    rw [Replayer.perform, hcall]
    exact .goes rfl (hf.closing hlives hgeneration (.inl ⟨hlog, rfl⟩))
  | @rawClose ref h =>
    obtain ⟨j, rfl, rfl⟩ := List.map_eq_singleton_iff.mp hhs
    have hj := his j List.mem_cons_self
    obtain ⟨d', hcall, hlives, hlog, hgeneration⟩ := hl.closeHandle hj (hall j List.mem_cons_self)
    rw [Replayer.perform, hcall]
    exact .goes rfl (hf.closing hlives hgeneration (.inl ⟨hlog, rfl⟩))
  | @rawUnwrap ref h =>
    obtain ⟨j, rfl, rfl⟩ := List.map_eq_singleton_iff.mp hhs
    have hcall := hl.resolve_open (his j List.mem_cons_self) (hall j List.mem_cons_self)
    rw [Replayer.perform, hcall]
    exact .goes rfl (hf.skip hl rfl (.inl ⟨rfl, rfl⟩))
  | newGeneration =>
    obtain rfl := List.map_eq_nil_iff.mp hhs
    exact hf.newGeneration

/-- The check of an operation on a closed issue fails. -/
theorem perform_closed (hf : Follows config w results js ks ⟨(d, st), names⟩)
    (his : ∀ i ∈ is, i ∈ js) (hclosed : is.find? (· ∈ ks) = some k) {r : ResolvedOp}
    (hr : op.ResolvesTo (is.map Issue.debug) r) (kind : String) :
    ∃ e : DebugError, Replayer.perform kind r ⟨(d, st), names⟩ =
        .ok (.failed kind e, ⟨(d.record e, st), names⟩) ∧
      e.code = HandleTable.refusal config.closedQueueMax (ks.map Issue.debug)
        (if op.closes then .doubleClose else .useAfterClose) k.debug := by
  have hl := hf.lives
  have hk : k ∈ ks := by simpa using List.find?_some hclosed
  have hmem := List.mem_of_find?_eq_some hclosed
  generalize hhs : is.map Issue.debug = hs at hr
  -- A call that only passes its handles on, and the rest by hand.
  have hcall : ∀ {r : Request} {bind : Option String}, r.handles = hs → (∀ h, r ≠ .close h) →
      ∃ e : DebugError, Replayer.perform kind (.call r bind) ⟨(d, st), names⟩ =
          .ok (.failed kind e, ⟨(d.record e, st), names⟩) ∧
        e.code = HandleTable.refusal config.closedQueueMax (ks.map Issue.debug) .useAfterClose
          k.debug := by
    intro r bind hr hclose
    obtain ⟨e, hres, hcode⟩ := hl.respond_closed his hclosed (hr.trans hhs.symm) hclose
    refine ⟨e, ?_, hcode⟩
    rw [Replayer.perform, hres]
  cases hr with
  | fromInt | newGeneration =>
    rw [List.map_eq_nil_iff.mp hhs] at hmem
    exact nomatch hmem
  | dup | asInt | same | invoke => exact hcall rfl nofun
  | close =>
    obtain ⟨j, rfl, rfl⟩ := List.map_eq_singleton_iff.mp hhs
    cases List.mem_singleton.mp hmem
    obtain ⟨e, hres, -, hcode⟩ := hl.close_closed hk
    refine ⟨e, ?_, hcode⟩
    rw [Replayer.perform, hres]
  | rawClose =>
    obtain ⟨j, rfl, rfl⟩ := List.map_eq_singleton_iff.mp hhs
    cases List.mem_singleton.mp hmem
    obtain ⟨e, -, hres, hcode⟩ := hl.close_closed hk
    refine ⟨e, ?_, hcode⟩
    rw [Replayer.perform, hres]
  | rawUnwrap =>
    obtain ⟨j, rfl, rfl⟩ := List.map_eq_singleton_iff.mp hhs
    cases List.mem_singleton.mp hmem
    obtain ⟨e, hres, hcode⟩ := hl.resolve_closed hk
    refine ⟨e, ?_, hcode⟩
    rw [Replayer.perform, hres]

/-- One operation of a replay does what the trace tells. -/
theorem step (hf : Follows config w results js ks p) (hroom : js.length < Handle.maxSlots)
    (hop : op.ByName) :
    Proceeds config results (w.result config.closedQueueMax op) (w.step op) (p.step op) := by
  obtain ⟨⟨d, st⟩, names⟩ := p
  have hspec := HandleNames.resolve_spec names op
  obtain ⟨hrefs, cause, hall⟩ | ⟨is, his, hrefs, hall⟩ := hf.findAll hop
  · rw [hall] at hspec
    rw [Lifetimes.step, Lifetimes.referred, hrefs, Replayer.step, hspec]
    exact .stops
  · rw [hall] at hspec
    obtain ⟨r, hresolve, hr⟩ := hspec
    have hfirst := hf.firstClosed his
    have hperform : Replayer.step op ⟨(d, st), names⟩ =
        Replayer.perform op.name r ⟨(d, st), names⟩ := by
      rw [Replayer.step, hresolve]
      rfl
    cases hfind : is.find? (· ∈ ks) with
    | none =>
      rw [hfind] at hfirst
      rw [Lifetimes.result_of_open hrefs hfirst, Lifetimes.step_of_open hrefs hfirst, hperform]
      exact hf.perform_open hroom his hfind hr
    | some k =>
      rw [hfind] at hfirst
      obtain ⟨e, hfailed, hcode⟩ := hf.perform_closed his hfind hr op.name
      have hskip := hf.skip (r := .failed op.name e) (hf.lives.record e)
        (congrArg HandleTable.leakGeneration (d.record_table e))
        (.inr ⟨d.not_untouched_record e, Option.some_ne_none _⟩)
      rw [Lifetimes.result_of_closed hrefs hfirst, Lifetimes.step_of_closed hrefs hfirst, hperform,
        hfailed, hf.misuse (his k (List.mem_of_find?_eq_some hfind)), ← hcode]
      exact .goes rfl hskip

/-! ### A run -/

/-- A run of operations does what the trace tells. -/
theorem run (hf : Follows config w results js ks p) {ops : List TraceOp}
    (hops : ∀ op ∈ ops, op.ByName) (hroom : results.length + ops.length ≤ Handle.maxSlots)
    (index : Nat) :
    (w.after ops = none ∧ ∃ e, Replayer.run index ops p = .error e) ∨
    ∃ w' rs p' js' ks', w.after ops = some w' ∧ Replayer.run index ops p = .ok (rs, p') ∧
      rs.map OpResult.withoutHandle = w.results config.closedQueueMax ops ∧
      Follows config w' (results ++ rs) js' ks' p' := by
  induction ops generalizing w results js ks p index with
  | nil =>
    refine .inr ⟨w, [], p, js, ks, rfl, rfl, rfl, ?_⟩
    rw [List.append_nil]
    exact hf
  | cons op ops ih =>
    have hmade := hf.made_le
    rw [List.length_cons] at hroom
    have hstep := hf.step (by omega) (hops op List.mem_cons_self)
    rw [Lifetimes.after, Lifetimes.results, Replayer.run]
    generalize w.step op = w' at hstep
    generalize p.step op = a at hstep
    cases hstep with
    | stops => exact .inl ⟨rfl, _, rfl⟩
    | @goes w' r p' js' ks' hresult hf' =>
      have hroom' : (results ++ [r]).length + ops.length ≤ Handle.maxSlots := by
        rw [List.length_append, List.length_singleton]
        omega
      obtain ⟨hafter, e, hrun⟩ | ⟨w'', rs, p'', js'', ks'', hafter, hrun, hresults, hf''⟩ :=
        ih hf' (fun op' hmem => hops op' (List.mem_cons_of_mem op hmem)) hroom' (index + 1)
      · refine .inl ⟨hafter, e, ?_⟩
        simp only [hrun]
      · refine .inr ⟨w'', r :: rs, p'', js'', ks'', hafter, ?_, ?_, ?_⟩
        · simp only [hrun]
        · rw [List.map_cons, hresult, hresults]
        · rw [List.append_cons]
          exact hf''

end Follows

/-! ### Reports -/

/-- A report says of the operations `ops` what they tell of themselves, and they end in `w`. -/
structure ReplayReport.Agrees (report : ReplayReport) (closedQueueMax : Nat) (ops : List TraceOp)
    (w : Lifetimes) : Prop where
  results : report.results.map OpResult.withoutHandle = Lifetimes.start.results closedQueueMax ops
  /-- The leaks are the handles that were answered for the productions never closed. -/
  leaks : (report.leaks.map fun l => some l.handle).Perm
    (w.leaked.map fun p => report.results[p.origin]?.bind OpResult.handle)
  ok : report.ok = true ↔ (∀ r ∈ report.results, r.error = none) ∧ w.leaked = []

/-- A replay ends if its trace does, and then the report agrees with the trace. -/
theorem replay_agrees {trace : Trace} (hlength : trace.ops.length ≤ Handle.maxSlots)
    (hnames : ∀ op ∈ trace.ops, op.ByName) (config : Config) :
    (Lifetimes.start.after trace.ops = none ∧ ∃ e, replay trace config = .error e) ∨
    ∃ w report, Lifetimes.start.after trace.ops = some w ∧ replay trace config = .ok report ∧
      report.Agrees config.closedQueueMax trace.ops w := by
  have hroom : ([] : List OpResult).length + trace.ops.length ≤ Handle.maxSlots := by
    rw [List.length_nil, Nat.zero_add]
    exact hlength
  obtain ⟨hafter, e, hrun⟩ | ⟨w, rs, p, js, ks, hafter, hrun, hresults, hf⟩ :=
    (Follows.start config).run hnames hroom 0
  · refine .inl ⟨hafter, e, ?_⟩
    rw [replay, hrun]
  · rw [List.nil_append] at hf
    refine .inr ⟨w, _, hafter, by rw [replay, hrun], hresults, hf.openHandles, ?_⟩
    have hleaked : (p.session.1.openHandles 0).isEmpty = true ↔ w.leaked = [] := by
      have hlen := hf.openHandles.length_eq
      rw [List.length_map, List.length_map] at hlen
      rw [List.isEmpty_iff_length_eq_zero, ← List.length_eq_zero_iff, hlen]
    rw [← hf.untouched, ← hleaked, DiagnosticLog.Untouched, ← List.isEmpty_iff]
    simp only [Bool.and_eq_true, beq_iff_eq]
    rfl

/-- **A replay finds exactly the misuse in its trace.** Its report agrees with the lives of handles
that are told of the trace alone. The configuration decides how an error is named, and neither
where the errors are nor whether there are any. -/
theorem replay_exact {trace : Trace} {config : Config} {report : ReplayReport}
    (hlength : trace.ops.length < 2 ^ 28 - 1) (hnames : ∀ op ∈ trace.ops, op.ByName)
    (hreport : replay trace config = .ok report) :
    ∃ w, Lifetimes.start.after trace.ops = some w ∧
      report.Agrees config.closedQueueMax trace.ops w ∧
      ∀ config', ∃ report', replay trace config' = .ok report' ∧ report'.ok = report.ok ∧
        report'.results.map (·.error.isSome) = report.results.map (·.error.isSome) := by
  have hlength : trace.ops.length ≤ Handle.maxSlots := Nat.le_of_lt hlength
  obtain ⟨-, e, hstop⟩ | ⟨w, report₀, hafter, hreport₀, hagrees⟩ :=
    replay_agrees hlength hnames config
  · rw [hreport] at hstop
    exact nomatch hstop
  rw [hreport] at hreport₀
  cases hreport₀
  refine ⟨w, hafter, hagrees, fun config' => ?_⟩
  obtain ⟨hnone, -⟩ | ⟨w', report', hafter', hreport', hagrees'⟩ :=
    replay_agrees hlength hnames config'
  · rw [hafter] at hnone
    exact nomatch hnone
  rw [hafter] at hafter'
  cases hafter'
  have herrors : report'.results.map (·.error.isSome) = report.results.map (·.error.isSome) := by
    have hsome := Lifetimes.isSome_error_results config'.closedQueueMax config.closedQueueMax .start
      trace.ops
    rw [← hagrees.results, ← hagrees'.results, List.map_map, List.map_map] at hsome
    exact hsome
  refine ⟨report', hreport', ?_, herrors⟩
  have hclean : ∀ rs : List OpResult, (∀ r ∈ rs, r.error = none) ↔
      ∀ b ∈ rs.map (·.error.isSome), b = false := by
    intro rs
    simp
  rw [Bool.eq_iff_iff, hagrees.ok, hagrees'.ok, hclean, hclean, herrors]

/-- One closed handle is remembered. The handle `a` and its duplicate `b` share an object. Once `a`
is closed, a use of it is told apart from other misuse until `c` is closed too. Then `a` is bound
anew, and `a` and `b` leak. -/
theorem replay_exact_forgetful :
    let config : Config := { Config.default with closedQueueMax := 1 }
    let trace : Trace := ⟨[.fromInt 5 (some "a"), .dup (.name "a") (some "b"),
      .same (.name "a") (.name "b"), .close (.name "a"), .asInt (.name "a"),
      .fromInt 7 (some "c"), .rawClose (.name "c"), .rawClose (.name "a"),
      .same (.name "b") (.name "c"), .close (.name "c"), .invoke ObjectStore.negOp [.name "b"]
      (some "a"), .asInt (.name "a")]⟩
    ∃ report w, replay trace config = .ok report ∧ trace.ops.length < 2 ^ 28 - 1 ∧
      (∀ op ∈ trace.ops, op.ByName) ∧ Lifetimes.start.after trace.ops = some w ∧
      report.Agrees 1 trace.ops w ∧ w.leaked = [⟨1, 0, 5⟩, ⟨10, 10, -5⟩] ∧ report.ok = false ∧
      report.results.map OpResult.error = [none, none, none, none, some .useAfterClose, none, none,
        some .invalidHandle, some .useAfterClose, some .doubleClose, none, none] := by
  intro config trace
  have hnames : ∀ op ∈ trace.ops, op.ByName := by
    simp [trace, TraceOp.ByName, TraceOp.refs]
  have hlength : trace.ops.length < 2 ^ 28 - 1 := by decide
  have hleaked : (Lifetimes.start.after trace.ops).map Lifetimes.leaked =
      some [⟨1, 0, 5⟩, ⟨10, 10, -5⟩] := by decide +kernel
  have hfound : (replay trace config).toOption.map (fun r => (r.ok, r.results.map OpResult.error)) =
      some (false, [none, none, none, none, some .useAfterClose, none, none, some .invalidHandle,
        some .useAfterClose, some .doubleClose, none, none]) := by decide +kernel
  cases hreport : replay trace config with
  | error e =>
    rw [hreport] at hfound
    exact nomatch hfound
  | ok report =>
    obtain ⟨w, hafter, hagrees, -⟩ := replay_exact hlength hnames hreport
    rw [hreport] at hfound
    rw [hafter] at hleaked
    obtain ⟨hok, herrors⟩ := Prod.mk.inj (Option.some.inj hfound)
    exact ⟨report, w, rfl, hlength, hnames, hafter, hagrees, Option.some.inj hleaked, hok, herrors⟩

end HandleGuard
