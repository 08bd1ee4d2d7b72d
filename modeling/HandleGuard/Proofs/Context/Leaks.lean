import HandleGuard.Proofs.Context.TableRuns

/-!
# Leak detection is exact

A leak detector remembers the generation that it started. Other detectors start generations too, and
anybody may start one by hand, while slots are given up and used again. All the same the detector
lists what was opened after its start and is still open, and nothing else
(`leak_detection_exact`).

The proof has three steps. An operation moves the table of the context by a run
(`LeakOp.run_evolves`), the stamps in the table tell what a run issued (`HandleTable.Watched`), and
a listing by generation reads the stamps.
-/

namespace HandleGuard

variable {τ : Type}

/-- An operation on a debug context with leak checks under way. Any detector may be stopped, also
one that is stopped already. -/
inductive LeakOp (τ : Type) where
  | act (op : SharedOp τ)
  | start
  | stop (detector : LeakDetector)

namespace LeakOp

/-- The two contexts after an operation. -/
def apply (U : Universal τ) (c : DebugContext × τ) : LeakOp τ → DebugContext × τ
  | act op => op.apply U c
  | start => ((LeakDetector.start c.1).2, c.2)
  | stop detector => ((detector.stop c.1).2, c.2)

/-- The handles that an operation opens, with the universal handles they are for. -/
def opened (U : Universal τ) (c : DebugContext × τ) : LeakOp τ → List (Handle × Handle)
  | act op => op.opened U c
  | start | stop _ => []

/-- How many leak generations an operation starts. -/
def generations : LeakOp τ → Nat
  | act op => op.generations
  | start | stop _ => 1

/-- The state after a run. -/
def run (U : Universal τ) (c : DebugContext × τ) (ops : List (LeakOp τ)) : DebugContext × τ :=
  ops.foldl (apply U) c

/-- The handles that a run opens. -/
def runOpened (U : Universal τ) : DebugContext × τ → List (LeakOp τ) → List (Handle × Handle)
  | _, [] => []
  | c, op :: ops => op.opened U c ++ runOpened U (op.apply U c) ops

/-- How many leak generations a run starts. -/
def runGenerations : List (LeakOp τ) → Nat
  | [] => 0
  | op :: ops => op.generations + runGenerations ops

theorem runGenerations_append (ops ops' : List (LeakOp τ)) :
    runGenerations (ops ++ ops') = runGenerations ops + runGenerations ops' := by
  induction ops with
  | nil => exact (Nat.zero_add _).symm
  | cons op ops ih => rw [List.cons_append, runGenerations, runGenerations, ih, Nat.add_assoc]

/-- An operation moves the table by a run, which issues what the operation opens. -/
theorem apply_evolves (U : Universal τ) (c : DebugContext × τ) (op : LeakOp τ) :
    c.1.table.Evolves (op.opened U c) op.generations (op.apply U c).1.table := by
  have hgeneration := HandleTable.evolves_perform c.1.table .newGeneration
  cases op with
  | act op => exact op.apply_evolves U c
  | start => exact hgeneration
  | stop detector => exact hgeneration

/-- A run moves the table by a run, which issues what is opened on the way. -/
theorem run_evolves (U : Universal τ) (c : DebugContext × τ) (ops : List (LeakOp τ)) :
    c.1.table.Evolves (runOpened U c ops) (runGenerations ops) (run U c ops).1.table := by
  induction ops generalizing c with
  | nil => exact .refl c.1.table
  | cons op ops ih => exact (apply_evolves U c op).trans (ih (op.apply U c))

end LeakOp

/-- A table that went through a run on which fewer than `2 ^ 64` generations were started is stamped
in order. -/
theorem HandleTable.Evolves.stamped {t : HandleTable} {opened : List (Handle × Handle)} {n : Nat}
    {tag closedQueueMax capacity : Nat}
    (h : (withCapacity tag closedQueueMax capacity).Evolves opened n t) (hn : n < 2 ^ 64) :
    t.WellFormed ∧ t.Stamped n := by
  obtain ⟨ops, rfl, -, rfl⟩ := h
  have hnew := withCapacity_wellFormed tag closedQueueMax capacity
  have hstamped := (withCapacity_stamped tag closedQueueMax capacity).run hnew ops
  rw [Nat.zero_add] at hstamped
  exact ⟨run_wellFormed hnew ops, hstamped hn⟩

/-- Leak detection is exact. Take any run on a new debug context before any universal context, with
leak detectors started and stopped in any order, as long as fewer than `2 ^ 64` generations are
started. Stopping the detector that was started after `before` fails iff a handle that was opened
`during` the rest of the run is still open. It then lists these handles, each once and in the order
of their slots, and with the universal handles that they were opened for. Nothing changes but the
leak generation. -/
theorem leak_detection_exact (U : Universal τ) (d : DebugContext)
    (tag closedQueueMax capacity : Nat)
    (htable : d.table = .withCapacity tag closedQueueMax capacity) (u : τ)
    (before during : List (LeakOp τ))
    (hgenerations : LeakOp.runGenerations (before ++ .start :: during) < 2 ^ 64) :
    let c := LeakOp.run U (d, u) before
    let detector := (LeakDetector.start c.1).1
    let started := (LeakDetector.start c.1).2
    let stopped := (LeakOp.run U (started, c.2) during).1
    let opened := LeakOp.runOpened U (started, c.2) during
    ∃ leaks : List LeakedHandle,
      detector.stop stopped = (if leaks = [] then .ok () else .error ⟨leaks⟩,
        { stopped with table :=
          { stopped.table with leakGeneration := stopped.table.leakGeneration + 1 } }) ∧
      (leaks = [] ↔ ∀ h ∈ opened.map Prod.fst, ∀ v, stopped.table.resolve h ≠ .ok v) ∧
      (∀ h v, (∃ l ∈ leaks, l.handle = h ∧ l.underlying = v) ↔
        h ∈ opened.map Prod.fst ∧ stopped.table.resolve h = .ok v) ∧
      (∀ l ∈ leaks, (l.handle, l.underlying) ∈ opened) ∧
      leaks.Pairwise fun l k => HandleTable.SlotBefore l.handle k.handle := by
  have hsplit : LeakOp.runGenerations (before ++ .start :: during) =
      LeakOp.runGenerations before + 1 + LeakOp.runGenerations during := by
    rw [LeakOp.runGenerations_append, LeakOp.runGenerations, LeakOp.generations, Nat.add_assoc]
  rw [hsplit] at hgenerations
  have hbefore : (HandleTable.withCapacity tag closedQueueMax capacity).Evolves _ _ _ :=
    htable ▸ LeakOp.run_evolves U (d, u) before
  generalize LeakOp.run U (d, u) before = c at hbefore ⊢
  obtain ⟨d₁, u₁⟩ := c
  obtain ⟨ht₁, hs₁⟩ := hbefore.stamped (by omega)
  -- The detector's generation starts with a table that is watched from there on.
  have ht₂ : d₁.table.newGeneration.WellFormed := HandleTable.perform_wellFormed ht₁ .newGeneration
  have hs₂ := hs₁.newGeneration (by omega)
  have hw₂ := hs₁.watched (by omega)
  obtain ⟨ops, hrun, hopened, hops⟩ :=
    LeakOp.run_evolves U ((LeakDetector.start d₁).2, u₁) during
  change _ = d₁.table.newGeneration.run ops at hrun
  change d₁.table.newGeneration.issued ops = _ at hopened
  have hw := hw₂.run ht₂ hs₂ hs₂.leakGeneration_eq.le ops (by omega)
  rw [← hrun, hopened, List.nil_append] at hw
  have ht := hrun ▸ HandleTable.run_wellFormed ht₂ ops
  have hnull : ∀ p ∈ LeakOp.runOpened U ((LeakDetector.start d₁).2, u₁) during, p.1 ≠ .null :=
    fun p hp => HandleTable.issued_fst_ne_null ht₂ (hopened ▸ hp)
  refine ⟨_, ?_, HandleTable.openHandles_since_eq_nil_iff ht hw hnull,
    fun h v => HandleTable.mem_openHandles_since_iff ht hw hnull, ?_,
    HandleTable.pairwise_slot_openHandles ht _⟩
  · simp only [LeakDetector.stop, List.isEmpty_iff]
    rfl
  · intro l hl
    obtain ⟨hl, hle⟩ := HandleTable.mem_openHandles_since.mp hl
    exact hw.listed l hl hle

/-- Two handles are opened under an outer detector, and then an inner one is started. The slot of
the first handle is given up and used again, the outer detector is stopped, and a generation is
started by hand. The inner detector lists what came after its start, the second use of the slot
included. -/
theorem leak_detection_exact_recycled_slot :
    let U : Universal Unit := fun _ u => (.ok (.handle ⟨9⟩), u)
    let d : DebugContext := { (default : DebugContext) with table := .withCapacity 3 0 8 }
    let before : List (LeakOp Unit) :=
      [.start, .act (.openHandle ⟨5⟩), .act (.openHandle ⟨6⟩)]
    let during : List (LeakOp Unit) :=
      [.act (.own (.closeHandle ⟨0x30000001⟩)), .act (.openHandle ⟨8⟩), .stop ⟨1⟩,
        .act (.own .newGeneration), .act (.own (.call (.fromInt 1)))]
    let c := LeakOp.run U (d, ()) before
    let detector := (LeakDetector.start c.1).1
    let started := (LeakDetector.start c.1).2
    let stopped := (LeakOp.run U (started, c.2) during).1
    let first : Handle := ⟨0x1030000001⟩
    let second : Handle := ⟨0x30000003⟩
    d.table = .withCapacity 3 0 8 ∧
    LeakOp.runGenerations (before ++ .start :: during) < 2 ^ 64 ∧
    stopped.table.resolve ⟨0x30000002⟩ = .ok ⟨6⟩ ∧
    LeakOp.runOpened U (started, c.2) during = [(first, ⟨8⟩), (second, ⟨9⟩)] ∧
    ∃ leaks, (detector.stop stopped).1 = .error ⟨leaks⟩ ∧
      ∀ h v, (∃ l ∈ leaks, l.handle = h ∧ l.underlying = v) ↔
        h ∈ [first, second] ∧ stopped.table.resolve h = .ok v := by
  intro U d before during c detector started stopped first second
  have hgenerations : LeakOp.runGenerations (before ++ .start :: during) < 2 ^ 64 := by
    decide +kernel
  have hkept : stopped.table.resolve ⟨0x30000002⟩ = .ok ⟨6⟩ := by decide +kernel
  have hleaked : stopped.table.resolve second = .ok ⟨9⟩ := by decide +kernel
  have hopened : LeakOp.runOpened U (started, c.2) during = [(first, ⟨8⟩), (second, ⟨9⟩)] := by
    decide +kernel
  have htable : d.table = .withCapacity 3 0 8 := rfl
  -- The rest follows from these, and what the operations are does not matter.
  clear_value d before during
  obtain ⟨leaks, hstop, hnil, hlisted, -⟩ :=
    leak_detection_exact U d 3 0 8 htable () before during hgenerations
  rw [hopened] at hnil hlisted
  have hsome : leaks ≠ [] := fun hempty => hnil.mp hempty second (by simp) ⟨9⟩ hleaked
  refine ⟨htable, hgenerations, hkept, hopened, leaks, ?_, hlisted⟩
  rw [hstop, if_neg hsome]

end HandleGuard
