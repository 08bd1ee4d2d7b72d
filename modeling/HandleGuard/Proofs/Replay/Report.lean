import HandleGuard.Proofs.Context.Step
import HandleGuard.Proofs.Diagnostic.Log
import HandleGuard.Proofs.Replay.Stops

/-!
# What a report says twice

A replay notes a failed check in two places. The result of the operation keeps its code, and the log
of the context keeps a diagnostic, as long as there is room. The two are written on different ways:
the result by the replay itself, and the diagnostic by the context in the middle of the operation.
Operation by operation both notes are about the same check (`DebugContext.Noted`), and so the parts
of a report fit together, whatever the trace does and however small the log is.

* `DebugContext.Noted`          what one operation leaves in the log
* `Replayer.Logged`             a replay under way, with all that its results and its log share
* `replay_report_consistent`    the parts of a report fit together
-/

namespace HandleGuard

/-- The failed check that an answer tells of, if it does. -/
def failedCheck? {α : Type} : Except CallError α → Option DebugError
  | .ok _ => none
  | .error e => e.debugError?

/-- The store knows nothing of checks. -/
theorem ObjectStore.failedCheck?_eq_none {r : Request} {s s' : ObjectStore}
    {a : Except CallError Reply} (h : respond r s = (a, s')) : failedCheck? a = none := by
  cases a with
  | ok reply => rfl
  | error e =>
    obtain ⟨code, text, rfl⟩ := error_of_respond (congrArg Prod.fst h)
    rfl

/-- The error is about one of the handles `hs`, or it says that the table is full. -/
def DebugError.Concerns (e : DebugError) (hs : List Handle) : Prop :=
  match e.handle? with
  | some h => h ∈ hs
  | none => e.code = .tableFull

theorem DebugError.Concerns.of_handle? {e : DebugError} {h : Handle} {hs : List Handle}
    (he : e.handle? = some h) (hmem : h ∈ hs) : e.Concerns hs := by
  unfold Concerns
  rw [he]
  exact hmem

/-! ### One operation of a context -/

namespace DebugContext

variable {d d' : DebugContext} {hs : List Handle} {failed : Option DebugError}
  {es : List DebugError}

/-- From `d` to `d'` there was one operation that was given the handles `hs`. It wrote its failed
check to the log, if it had one. -/
inductive Noted (d : DebugContext) (hs : List Handle) : Option DebugError → DebugContext → Prop
  | passed {d' : DebugContext} (ht : d'.table.WellFormed) (hidle : d'.Idle) (hid : d'.id = d.id)
    (hlog : d'.log = d.log) : Noted d hs none d'
  | failed {e : DebugError} (he : e.Concerns hs) : Noted d hs (some e) (d.record e)

theorem Noted.wellFormed (h : Noted d hs failed d') (ht : d.table.WellFormed) :
    d'.table.WellFormed := by
  cases h with
  | passed ht' => exact ht'
  | failed => rwa [record_table]

theorem Noted.idle (h : Noted d hs failed d') (hidle : d.Idle) : d'.Idle := by
  cases h with
  | passed _ hidle' => exact hidle'
  | failed => exact hidle.record _

theorem Noted.concerns {e : DebugError} (h : Noted d hs (some e) d') : e.Concerns hs := by
  cases h with
  | failed he => exact he

theorem Noted.max_log (h : Noted d hs failed d') : d'.log.max = d.log.max := by
  cases h with
  | passed _ _ _ hlog => rw [hlog]
  | failed => rw [record_log, DiagnosticLog.max_push]

/-- The log of a context that recorded all failed checks so far. -/
theorem Noted.recorded (h : Noted d hs failed d') (hes : d.Recorded es) :
    d'.Recorded (es ++ failed.toList) := by
  cases h with
  | passed _ _ hid hlog =>
    rw [Option.toList_none, List.append_nil]
    exact hes.congr hlog hid
  | failed => exact hes.record _

section

variable {c : Session} (ht : c.1.table.WellFormed) (hidle : c.1.Idle)

include ht hidle

theorem respond_noted (r : Request) :
    Noted c.1 r.handles (failedCheck? (Session.respond r c).1) (Session.respond r c).2.1 := by
  obtain ⟨d, st⟩ := c
  generalize hp : Session.respond r (d, st) = p
  have hanswered : Answered ObjectStore.respond d st r p.1 p.2.1 p.2.2 :=
    hp ▸ respond_answered ht hidle ObjectStore.respond st r
  obtain ⟨a, d', st'⟩ := p
  cases hanswered with
  | refused hargs _ _ he =>
    exact .failed (.of_handle? he (hargs ▸ List.mem_append_right _ List.mem_cons_self))
  | closedNull => exact .passed ht hidle rfl rfl
  | closed _ ht' _ _ hU =>
    rw [ObjectStore.failedCheck?_eq_none hU]
    exact .passed ht' hidle rfl rfl
  | passed _ _ hU _ =>
    rw [ObjectStore.failedCheck?_eq_none hU]
    exact .passed ht hidle rfl rfl
  | wrapped _ _ _ _ ht' _ => exact .passed ht' hidle rfl rfl
  | full => exact .failed rfl

theorem resolve_noted (h : Handle) :
    Noted c.1 [h] (failedCheck? ((Session.resolve h c).1.mapError .check)) (Session.resolve h c).2.1 := by
  obtain ⟨d, st⟩ := c
  rw [Session.resolve, resolve, checkResolve, check_first]
  cases hres : d.table.resolve h with
  | ok u => exact .passed ht hidle rfl rfl
  | error e =>
    simp only [report_of_idle Session.universal e hidle]
    exact .failed (.of_handle? (HandleTable.resolve_error hres).2 List.mem_cons_self)

theorem closeHandle_noted (h : Handle) :
    Noted c.1 [h] (failedCheck? ((Session.closeHandle h c).1.mapError .check)) (Session.closeHandle h c).2.1 := by
  obtain ⟨d, st⟩ := c
  rw [Session.closeHandle, closeHandle, checkClose, check_first]
  obtain ⟨-, hclose⟩ | ⟨u, table, hclose, -, -, ht', -⟩ | ⟨e, hclose, -, he⟩ :=
    d.table.close_bindings ht h
  · rw [hclose]
    exact .passed ht hidle rfl rfl
  · rw [hclose]
    exact .passed ht' hidle rfl rfl
  · rw [hclose]
    simp only [report_of_idle Session.universal e hidle]
    exact .failed (.of_handle? he List.mem_cons_self)

end

end DebugContext

/-! ### Results -/

/-- The numbers of the failed operations, in order. -/
def OpResult.failures (results : List OpResult) : List Nat :=
  results.zipIdx.filterMap fun p => if p.1.error.isSome then some p.2 else none

theorem OpResult.failures_concat (results : List OpResult) (r : OpResult) :
    failures (results ++ [r]) =
      failures results ++ if r.error.isSome then [results.length] else [] := by
  unfold failures
  rw [List.zipIdx_append, List.filterMap_append]
  cases herror : r.error <;> simp [herror]

/-- Operation `i` of `done` failed, as its result tells, with the error `e`, and the handle that `e`
is about is one of those the operation was given. -/
def Blames (done : List (TraceOp × OpResult)) (i : Nat) (e : DebugError) : Prop :=
  ∃ op r hs, done[i]? = some (op, r) ∧ r.error = some e.code ∧
    op.refs.map (HandleRef.meaning? (done.take i)) = hs.map some ∧ e.Concerns hs

/-- A later operation changes nothing about an earlier one. -/
theorem Blames.append {done : List (TraceOp × OpResult)} {i : Nat} {e : DebugError}
    (h : Blames done i e) (done' : List (TraceOp × OpResult)) : Blames (done ++ done') i e := by
  obtain ⟨op, r, hs, hi, herror, hrefs, he⟩ := h
  have hlt : i < done.length := (List.getElem?_eq_some_iff.mp hi).1
  refine ⟨op, r, hs, ?_, herror, ?_, he⟩
  · rw [List.getElem?_append_left hlt, hi]
  · rw [List.take_append_of_le_length (Nat.le_of_lt hlt), hrefs]

/-! ### A replay under way -/

namespace Replayer

variable {max : Nat} {done : List (TraceOp × OpResult)} {p p' : Replayer} {op : TraceOp}
  {r : OpResult} {hs : List Handle}

/-- A replay that has come to `p` through the operations `done`: its log and their results are about
the same failed checks. -/
structure Logged (max : Nat) (done : List (TraceOp × OpResult)) (p : Replayer) : Prop where
  names : ∀ s, p.names.lookup s = HandleRef.meaning? done (.name s)
  table : p.session.1.table.WellFormed
  idle : p.session.1.Idle
  max_log : p.session.1.log.max = max
  recorded : ∃ es, p.session.1.Recorded es ∧
    List.Forall₂ (Blames done) (OpResult.failures (done.map Prod.snd)) es ∧
    (done.map Prod.snd).filterMap OpResult.error = es.map DebugError.code

theorem Logged.start (config : Config) :
    Logged (Nat.max config.diagMax 1) [] (.start config) where
  names := fun _ => rfl
  table := HandleTable.withCapacity_wellFormed _ _ _
  idle := rfl
  max_log := rfl
  recorded := ⟨[], .new config.diagMax, .nil, rfl⟩

/-- What one operation does to names, log and result. -/
private structure Performs (done : List (TraceOp × OpResult)) (p : Replayer) (kind : String)
    (op : TraceOp) (hs : List Handle) (r : OpResult) (p' : Replayer) : Prop where
  op_eq : r.op = kind
  names : ∀ s, p'.names.lookup s = HandleRef.meaning? (done ++ [(op, r)]) (.name s)
  noted : ∃ failed, p.session.1.Noted hs failed p'.session.1 ∧
    r.error = failed.map DebugError.code

namespace Logged

variable (hp : Logged max done p)

include hp

private theorem perform_call {req : Request} {bind : Option String} {kind : String}
    (hperform : perform kind (.call req bind) p = .ok (r, p')) (hbind : op.bind? = bind) :
    Performs done p kind op req.handles r p' := by
  subst hbind
  have hnoted := DebugContext.respond_noted hp.table hp.idle req
  rw [perform] at hperform
  generalize Session.respond req p.session = q at hperform hnoted
  obtain ⟨a, c⟩ := q
  cases a with
  | ok reply =>
    cases hperform
    have herror : (OpResult.answered kind reply).error = none := by cases reply <;> rfl
    have hop : (OpResult.answered kind reply).op = kind := by cases reply <;> rfl
    exact ⟨hop, HandleNames.means_bind hp.names kind reply, none, hnoted, herror⟩
  | error e =>
    cases e with
    | check e =>
      cases hperform
      exact ⟨rfl, HandleNames.means_skip hp.names (.inr rfl), some e, hnoted, rfl⟩
    | call code text => cases hperform

private theorem perform_performs {rop : ResolvedOp} {kind : String} (hrop : op.ResolvesTo hs rop)
    (hperform : perform kind rop p = .ok (r, p')) : Performs done p kind op hs r p' := by
  cases hrop with
  | fromInt | dup | close | asInt | same | invoke => exact hp.perform_call hperform rfl
  | newGeneration =>
    cases hperform
    exact ⟨rfl, HandleNames.means_skip hp.names (.inr rfl), none,
      .passed (HandleTable.newGeneration_bindings hp.table).1 hp.idle rfl rfl, rfl⟩
  | @rawUnwrap _ h =>
    have hnoted := DebugContext.resolve_noted hp.table hp.idle h
    rw [perform] at hperform
    generalize Session.resolve h p.session = q at hperform hnoted
    obtain ⟨a, c⟩ := q
    cases a with
    | ok u =>
      cases hperform
      exact ⟨rfl, HandleNames.means_skip hp.names (.inl rfl), none, hnoted, rfl⟩
    | error e =>
      cases hperform
      exact ⟨rfl, HandleNames.means_skip hp.names (.inl rfl), some e, hnoted, rfl⟩
  | @rawClose _ h =>
    have hnoted := DebugContext.closeHandle_noted hp.table hp.idle h
    rw [perform] at hperform
    generalize Session.closeHandle h p.session = q at hperform hnoted
    obtain ⟨a, c⟩ := q
    cases a with
    | ok u =>
      cases hperform
      exact ⟨rfl, HandleNames.means_skip hp.names (.inl rfl), none, hnoted, rfl⟩
    | error e =>
      cases hperform
      exact ⟨rfl, HandleNames.means_skip hp.names (.inl rfl), some e, hnoted, rfl⟩

/-- The next operation, given `hs`. -/
private theorem next {kind : String} (hr : Performs done p kind op hs r p')
    (hmeaning : op.refs.map (HandleRef.meaning? done) = hs.map some) :
    Logged max (done ++ [(op, r)]) p' := by
  obtain ⟨-, hnames, failed, hnoted, herror⟩ := hr
  obtain ⟨es, hes, hblames, hcodes⟩ := hp.recorded
  refine ⟨hnames, hnoted.wellFormed hp.table, hnoted.idle hp.idle,
    hnoted.max_log.trans hp.max_log, es ++ failed.toList, hnoted.recorded hes, ?_, ?_⟩
  · have hkept : List.Forall₂ (Blames (done ++ [(op, r)]))
        (OpResult.failures (done.map Prod.snd)) es := hblames.imp fun _ _ h => h.append _
    rw [List.map_append, List.map_singleton, OpResult.failures_concat, List.length_map, herror]
    cases failed with
    | none => simpa using hkept
    | some e =>
      -- The operation is the last one, and its references mean what they meant before it.
      have hlast : Blames (done ++ [(op, r)]) done.length e := by
        refine ⟨op, r, hs, ?_, herror, ?_, hnoted.concerns⟩
        · rw [List.getElem?_append_right (Nat.le_refl _), Nat.sub_self]
          rfl
        · rw [List.take_left, hmeaning]
      exact List.rel_append hkept (.cons hlast .nil)
  · rw [List.map_append, List.filterMap_append, hcodes, List.map_append]
    cases failed <;> simp [herror]

theorem step (hstep : p.step op = .ok (r, p')) :
    Logged max (done ++ [(op, r)]) p' ∧ r.op = op.name := by
  have hspec := HandleNames.resolve_spec p.names op
  rw [Replayer.step] at hstep
  obtain ⟨hs, hmeaning, hall⟩ | ⟨s, -, hall⟩ := HandleNames.findAll_cases hp.names op.refs
  · rw [hall] at hspec
    obtain ⟨rop, hresolve, hrop⟩ := hspec
    rw [hresolve] at hstep
    have hr := hp.perform_performs hrop hstep
    exact ⟨hp.next hr hmeaning, hr.op_eq⟩
  · rw [hall] at hspec
    rw [hspec] at hstep
    cases hstep

/-- A run keeps results and log in step. -/
theorem run {index : Nat} {ops : List TraceOp} {results : List OpResult} {q : Replayer}
    (hrun : Replayer.run index ops p = .ok (results, q)) :
    Logged max (done ++ ops.zip results) q ∧ results.map OpResult.op = ops.map TraceOp.name := by
  induction ops generalizing index done p results with
  | nil =>
    cases hrun
    exact ⟨by rwa [List.zip_nil_left, List.append_nil], rfl⟩
  | cons op ops ih =>
    obtain ⟨r, p', results', hstep, hrest, rfl⟩ := run_cons_eq_ok_iff.mp hrun
    obtain ⟨hp', hop⟩ := hp.step hstep
    obtain ⟨hq, hops⟩ := ih hp' hrest
    rw [List.append_assoc] at hq
    exact ⟨hq, by rw [List.map_cons, List.map_cons, hop, hops]⟩

end Logged

end Replayer

/-- What one operation of a trace and a diagnostic have to do with each other, after the operations
`done` with their results: the diagnostic is about one of the handles that the operation was given,
or it says that the table was full and is about none. -/
def Diagnostic.BelongsTo (d : Diagnostic) (done : List (TraceOp × OpResult)) (op : TraceOp) : Prop :=
  if d.code = .tableFull then d.handle = none
  else ∃ h, d.handle = some h ∧ ∃ ref ∈ op.refs, ref.meaning? done = some h

theorem Diagnostic.belongsTo_ofError {e : DebugError} {done : List (TraceOp × OpResult)}
    {op : TraceOp} {hs : List Handle} (he : e.Concerns hs)
    (hmeaning : op.refs.map (HandleRef.meaning? done) = hs.map some) (id : ContextId) :
    (Diagnostic.ofError e id).BelongsTo done op := by
  unfold BelongsTo
  unfold DebugError.Concerns at he
  cases e with
  | tableFull capacity => rfl
  | configuration bound requested => cases he
  | invalidHandle h _ | useAfterClose h | doubleClose h =>
    have hmem : some h ∈ op.refs.map (HandleRef.meaning? done) :=
      hmeaning ▸ List.mem_map_of_mem he
    obtain ⟨ref, href, hh⟩ := List.mem_map.mp hmem
    exact ⟨h, rfl, ref, href, hh⟩

/-- The handles in a leak report are those that resolve. -/
theorem DebugContext.mem_leaks_iff {d : DebugContext} (ht : d.table.WellFormed) (h u : Handle) :
    (∃ l ∈ d.leakReport.leaks, l.handle = h ∧ l.underlying = u) ↔
      h ≠ .null ∧ d.table.resolve h = .ok u := by
  by_cases hh : h = .null
  · subst hh
    refine iff_of_false ?_ fun hne => hne.1 rfl
    rintro ⟨l, hl, hnull, -⟩
    exact HandleTable.handle_ne_null_of_mem ht hl hnull
  · rw [HandleTable.resolve_eq_ok_iff ht hh]
    exact (and_iff_right hh).symm

theorem Session.fst_resolve (h : Handle) (c : Session) :
    (Session.resolve h c).1 = c.1.table.resolve h := by
  obtain ⟨d, st⟩ := c
  rw [Session.resolve, DebugContext.resolve, DebugContext.checkResolve, DebugContext.check_first]
  cases d.table.resolve h <;> rfl

/-- The parts of a report fit together. Every operation has a result, in order and under its name.
The results with an error are as many as the diagnostics that the report has and those that the log
has lost, and the log loses none before it is full. The diagnostics are those of the latest
failures: they have the codes of these, and each is about a handle that the failed operation was
given, or about none if the table was full. The leaks are the handles that still resolve at the end,
each once. The report is fine iff no result has an error and there is no leak. -/
theorem replay_report_consistent {trace : Trace} {config : Config} {report : ReplayReport}
    (h : replay trace config = .ok report) :
    let errors := report.results.filterMap OpResult.error
    report.opsTotal = trace.ops.length ∧
    report.results.map OpResult.op = trace.ops.map TraceOp.name ∧
    errors.length = report.diagnostics.length + report.diagnosticsDropped ∧
    report.diagnostics.length = min (max config.diagMax 1) errors.length ∧
    report.diagnostics.map (·.code.short) =
      (errors.drop report.diagnosticsDropped).map DiagnosticCode.short ∧
    List.Forall₂ (fun i d => ∃ op r, trace.ops[i]? = some op ∧ report.results[i]? = some r ∧
        r.error = some d.code ∧ d.BelongsTo ((trace.ops.zip report.results).take i) op)
      ((OpResult.failures report.results).drop report.diagnosticsDropped) report.diagnostics ∧
    (∃ q, Replayer.run 0 trace.ops (.start config) = .ok (report.results, q) ∧
      (report.leaks.map OpenHandle.handle).Nodup ∧
      ∀ h u, (∃ l ∈ report.leaks, l.handle = h ∧ l.underlying = u) ↔
        h ≠ .null ∧ (q.session.resolve h).1 = .ok u) ∧
    (report.ok = true ↔ (∀ r ∈ report.results, r.error = none) ∧ report.leaks = []) := by
  rw [replay] at h
  cases hrun : Replayer.run 0 trace.ops (.start config) with
  | error e =>
    rw [hrun] at h
    cases h
  | ok a =>
    obtain ⟨results, q⟩ := a
    rw [hrun] at h
    cases h
    obtain ⟨hq, hops⟩ := (Replayer.Logged.start config).run hrun
    obtain ⟨es, hes, hblames, hcodes⟩ := hq.recorded
    have hresults : (trace.ops.zip results).map Prod.snd = results :=
      List.map_snd_zip (Nat.le_of_eq (Replayer.length_of_run hrun))
    rw [List.nil_append, hresults] at hblames hcodes
    obtain ⟨hsnapshot, hcount, hlen⟩ := hes.latest
    rw [hq.max_log] at hlen
    dsimp only
    refine ⟨rfl, hops, ?_, ?_, ?_, ?_, ⟨q, rfl, HandleTable.nodup_openHandles hq.table, ?_⟩, ?_⟩
    · rw [hcodes, List.length_map, hcount]
    · rw [hcodes, List.length_map, hlen]
    · rw [hcodes, hsnapshot, List.map_map, ← List.map_drop, List.map_map]
      rfl
    · rw [hsnapshot, List.forall₂_map_right_iff]
      refine (List.forall₂_drop _ hblames).imp fun i e hblame => ?_
      obtain ⟨op, r, hs, hi, herror, hmeaning, he⟩ := hblame
      rw [List.getElem?_zip_eq_some] at hi
      exact ⟨op, r, hi.1, hi.2, herror, Diagnostic.belongsTo_ofError he hmeaning _⟩
    · intro h u
      rw [Session.fst_resolve]
      exact DebugContext.mem_leaks_iff hq.table h u
    · have hnone : (∀ r ∈ results, r.error = none) ↔ es.length = 0 := by
        rw [← List.filterMap_eq_nil_iff, hcodes, List.map_eq_nil_iff, List.length_eq_zero_iff]
      rw [hnone, hcount, Nat.add_eq_zero_iff, List.length_eq_zero_iff]
      simp only [Bool.and_eq_true, List.isEmpty_iff, beq_iff_eq]

/-- The log has room for two diagnostics, and three checks fail. The report still tells which ones
the two are about, though the name `a` means nothing any more that could be used. -/
theorem replay_report_consistent_small_log :
    let config : Config := { Config.default with diagMax := 2 }
    let trace : Trace := ⟨[.fromInt 7 (some "a"), .asInt (.raw ⟨0xdead⟩), .close (.name "a"),
      .rawClose (.name "a"), .same (.raw .null) (.name "a"), .fromInt 8 (some "a")]⟩
    ∃ report, replay trace config = .ok report ∧ report.ok = false ∧
      report.results.map OpResult.error =
        [none, some .invalidHandle, none, some .doubleClose, some .useAfterClose, none] ∧
      report.diagnostics.length = 2 ∧ report.diagnosticsDropped = 1 ∧
      List.Forall₂ (fun i d => ∃ op r, trace.ops[i]? = some op ∧ report.results[i]? = some r ∧
          r.error = some d.code ∧ d.BelongsTo ((trace.ops.zip report.results).take i) op)
        [3, 4] report.diagnostics := by
  intro config trace
  have hfound : (replay trace config).toOption.map (fun r => (r.ok, r.results.map OpResult.error,
      r.diagnosticsDropped, (OpResult.failures r.results).drop 1)) =
      some (false, [none, some .invalidHandle, none, some .doubleClose, some .useAfterClose, none],
        1, [3, 4]) := by
    decide +kernel
  cases hreport : replay trace config with
  | error e =>
    rw [hreport] at hfound
    exact nomatch hfound
  | ok report =>
    obtain ⟨-, -, -, -, -, hbelong, -⟩ := replay_report_consistent hreport
    rw [hreport] at hfound
    obtain ⟨hok, hfound⟩ := Prod.mk.inj (Option.some.inj hfound)
    obtain ⟨herrors, hfound⟩ := Prod.mk.inj hfound
    obtain ⟨hdropped, hfailures⟩ := Prod.mk.inj hfound
    rw [hdropped, hfailures] at hbelong
    exact ⟨report, rfl, hok, herrors, hbelong.length_eq.symm, hdropped, hbelong⟩

end HandleGuard
