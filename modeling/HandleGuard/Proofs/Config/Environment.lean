import HandleGuard.Proofs.Config.Values
import HandleGuard.Proofs.Text.Encoding

/-!
# What the environment makes of the configuration

Each of the four variables sets one part of the configuration, by its own value and nothing else
(`Decides`). What is rejected are the values that say nothing, variable by variable in the order of
reading. `environment_exact` puts the four together.

* `decides_readVariable`     reading one variable
* `readVariable_without`     reading it in an environment that has lost what was rejected
-/

namespace HandleGuard

/-- The environment with some variables unset. -/
def Environment.without (env : Environment) (names : List String) : Environment :=
  ⟨env.settings.filter fun p => p.1 ∉ names⟩

theorem Environment.get?_eq_some_iff {env : Environment} {name value : String} :
    env.get? name = some value ↔ env.settings.lookup name = some value.toUTF8 := by
  rw [get?, Option.bind_eq_some_iff]
  constructor
  · rintro ⟨bytes, hlookup, hdecode⟩
    rw [hlookup, Utf8.decode?_eq_some_iff.mp hdecode]
  · intro hlookup
    exact ⟨_, hlookup, Utf8.decode?_eq_some_iff.mpr rfl⟩

theorem Environment.get?_without (env : Environment) (names : List String) (name : String) :
    (env.without names).get? name = if name ∈ names then none else env.get? name := by
  have hlookup : (env.without names).settings.lookup name =
      if name ∈ names then none else env.settings.lookup name := by
    show (env.settings.filter fun p => p.1 ∉ names).lookup name = _
    rw [List.lookup_filter_fst (fun name => decide (name ∉ names))]
    by_cases hname : name ∈ names
    · simp [hname]
    · simp [hname]
  rw [get?, hlookup]
  split
  · rfl
  · rfl

namespace Config

variable {α : Type} {env env' : Environment} {name : String} {read : String → Option α}
  {Says : String → α → Prop}

/-- How one variable sets its part `a` of the configuration, and what is reported of it. Unset, or not
text, it leaves the default and goes unreported; a value that says something is taken; and any other
value leaves the default and is reported as it stands. -/
structure Decides (env : Environment) (name : String) (Says : String → α → Prop) (default a : α)
    (reported : List RejectedVariable) : Prop where
  unset : (∀ value : String, env.settings.lookup name ≠ some value.toUTF8) →
    a = default ∧ reported = []
  taken : ∀ value v, env.settings.lookup name = some value.toUTF8 → Says value v →
    a = v ∧ reported = []
  rejected : ∀ value, env.settings.lookup name = some value.toUTF8 → (∀ v, ¬Says value v) →
    a = default ∧ reported = [⟨name, value⟩]

theorem readVariable_of_none (h : env.get? name = none) : readVariable env name read = (none, []) := by
  simp only [readVariable, h]

theorem readVariable_of_some {value : String} {v : α} (h : env.get? name = some value)
    (hread : read value = some v) : readVariable env name read = (some v, []) := by
  simp only [readVariable, h, hread]

theorem readVariable_of_rejected {value : String} (h : env.get? name = some value)
    (hread : read value = none) : readVariable env name read = (none, [⟨name, value⟩]) := by
  simp only [readVariable, h, hread]

theorem readVariable_fst (env : Environment) (name : String) (read : String → Option α) :
    (readVariable env name read).1 = (env.get? name).bind read := by
  cases hget : env.get? name with
  | none => rw [readVariable_of_none hget, Option.bind_none]
  | some value =>
    rw [Option.bind_some]
    cases hread : read value with
    | none => rw [readVariable_of_rejected hget hread]
    | some v => rw [readVariable_of_some hget hread]

/-- A variable that is read by what its values say sets its part of the configuration. -/
theorem decides_readVariable (hread : ∀ {value v}, read value = some v ↔ Says value v)
    (default : α) : Decides env name Says default ((readVariable env name read).1.getD default)
      (readVariable env name read).2 where
  unset := by
    intro hunset
    have hnone : env.get? name = none := by
      rw [Option.eq_none_iff_forall_ne_some]
      intro value hvalue
      exact hunset value (Environment.get?_eq_some_iff.mp hvalue)
    rw [readVariable_of_none hnone]
    exact ⟨rfl, rfl⟩
  taken := by
    intro value v hlookup hsays
    rw [readVariable_of_some (Environment.get?_eq_some_iff.mpr hlookup) (hread.mpr hsays)]
    exact ⟨rfl, rfl⟩
  rejected := by
    intro value hlookup hsays
    have hnone : read value = none := by
      rw [Option.eq_none_iff_forall_ne_some]
      intro v hv
      exact hsays v (hread.mp hv)
    rw [readVariable_of_rejected (Environment.get?_eq_some_iff.mpr hlookup) hnone]
    exact ⟨rfl, rfl⟩

/-- Reading a variable looks at this variable only. -/
theorem readVariable_congr (h : env'.settings.lookup name = env.settings.lookup name) :
    readVariable env' name read = readVariable env name read := by
  rw [readVariable, readVariable, Environment.get?, Environment.get?, h]

/-- What is reported of a variable is reported under its name. A variable that is reported has not
been read. -/
theorem readVariable_reported (env : Environment) (name : String) (read : String → Option α) :
    (readVariable env name read).2 = [] ∨ (readVariable env name read).1 = none ∧
      ∃ value, (readVariable env name read).2 = [⟨name, value⟩] := by
  cases hget : env.get? name with
  | none => exact .inl (by rw [readVariable_of_none hget])
  | some value =>
    cases hread : read value with
    | none =>
      rw [readVariable_of_rejected hget hread]
      exact .inr ⟨rfl, value, rfl⟩
    | some v => exact .inl (by rw [readVariable_of_some hget hread])

theorem mem_names_reported {other : String} :
    other ∈ (readVariable env name read).2.map RejectedVariable.name ↔
      other = name ∧ (readVariable env name read).2 ≠ [] := by
  obtain hnone | ⟨-, value, hone⟩ := readVariable_reported env name read
  · simp [hnone]
  · simp [hone]

/-- Unset variables are not reported. So without the variables that were rejected, all are read as
before. -/
theorem readVariable_without {names : List String}
    (hnames : name ∈ names ↔ (readVariable env name read).2 ≠ []) :
    readVariable (env.without names) name read = ((readVariable env name read).1, []) := by
  have hget := env.get?_without names name
  obtain hnone | ⟨hdefault, value, hone⟩ := readVariable_reported env name read
  · rw [if_neg (by simp [hnames, hnone])] at hget
    have hsame : readVariable (env.without names) name read = readVariable env name read := by
      rw [readVariable, readVariable, hget]
    rw [hsame, ← hnone]
  · rw [if_pos (by simp [hnames, hone])] at hget
    rw [readVariable_of_none hget, hdefault]

/-- The configuration, variable by variable. -/
theorem config_eq (env : Environment) : (ofEnvironment env).1 =
    { bindPolicy := (readVariable env singletonVariable readBindPolicy).1.getD .singleton
      closedQueueMax := (readVariable env closedQueueMaxVariable readPositiveSize).1.getD 1024
      onInvalid := (readVariable env onInvalidVariable readInvalidPolicy).1.getD .abort
      diagMax := (readVariable env diagMaxVariable readPositiveSize).1.getD 4096 } :=
  rfl

/-- The values that were rejected, in the order of reading. -/
theorem rejected_eq (env : Environment) : (ofEnvironment env).2 =
    (readVariable env singletonVariable readBindPolicy).2 ++
    (readVariable env closedQueueMaxVariable readPositiveSize).2 ++
    (readVariable env onInvalidVariable readInvalidPolicy).2 ++
    (readVariable env diagMaxVariable readPositiveSize).2 :=
  rfl

/-- Without the variables that were rejected the configuration is the same, and no variable is
rejected. -/
theorem ofEnvironment_without (env : Environment) :
    ofEnvironment (env.without ((ofEnvironment env).2.map RejectedVariable.name)) =
      ((ofEnvironment env).1, []) := by
  generalize hnames : (ofEnvironment env).2.map RejectedVariable.name = names
  -- The four names differ, so each is among those rejected iff its own variable was.
  have hmem : (singletonVariable ∈ names ↔
        (readVariable env singletonVariable readBindPolicy).2 ≠ []) ∧
      (closedQueueMaxVariable ∈ names ↔
        (readVariable env closedQueueMaxVariable readPositiveSize).2 ≠ []) ∧
      (onInvalidVariable ∈ names ↔
        (readVariable env onInvalidVariable readInvalidPolicy).2 ≠ []) ∧
      (diagMaxVariable ∈ names ↔ (readVariable env diagMaxVariable readPositiveSize).2 ≠ []) := by
    simp only [← hnames, rejected_eq, List.map_append, List.mem_append, mem_names_reported]
    simp [singletonVariable, closedQueueMaxVariable, onInvalidVariable, diagMaxVariable]
  obtain ⟨hsingleton, hqueue, hpolicy, hlog⟩ := hmem
  rw [ofEnvironment, readVariable_without hsingleton, readVariable_without hqueue,
    readVariable_without hpolicy, readVariable_without hlog]
  rfl

/-- A size that was read is not zero, and neither is a default that is none. -/
theorem getD_readVariable_ne_zero (env : Environment) (name : String) {default : Nat}
    (hdefault : default ≠ 0) : (readVariable env name readPositiveSize).1.getD default ≠ 0 := by
  cases hread : (readVariable env name readPositiveSize).1 with
  | none => exact hdefault
  | some n =>
    rw [readVariable_fst] at hread
    obtain ⟨value, -, hsize⟩ := Option.bind_eq_some_iff.mp hread
    exact Nat.ne_of_gt (readPositiveSize_eq_some_iff.mp hsize).1

/-- The environment is read exactly. Each of the four variables decides its part of the configuration,
whatever the others are: unset or not UTF-8 it leaves the default, a value that says something is
taken, and any other value is rejected. The rejected values are listed in the order of reading, and
nothing else is. So no size is zero, a variable that stays as it is keeps its part of the
configuration, and without the rejected variables the configuration is the same and nothing is
rejected. -/
theorem environment_exact (env : Environment) :
    let config := (ofEnvironment env).1
    let rejected := (ofEnvironment env).2
    (∃ r₁ r₂ r₃ r₄, rejected = r₁ ++ r₂ ++ r₃ ++ r₄ ∧
      Decides env singletonVariable SaysBindPolicy .singleton config.bindPolicy r₁ ∧
      Decides env closedQueueMaxVariable SaysSize 1024 config.closedQueueMax r₂ ∧
      Decides env onInvalidVariable SaysInvalidPolicy .abort config.onInvalid r₃ ∧
      Decides env diagMaxVariable SaysSize 4096 config.diagMax r₄) ∧
    config.closedQueueMax ≠ 0 ∧ config.diagMax ≠ 0 ∧
    (∀ env' : Environment,
      (env'.settings.lookup singletonVariable = env.settings.lookup singletonVariable →
        (ofEnvironment env').1.bindPolicy = config.bindPolicy) ∧
      (env'.settings.lookup closedQueueMaxVariable = env.settings.lookup closedQueueMaxVariable →
        (ofEnvironment env').1.closedQueueMax = config.closedQueueMax) ∧
      (env'.settings.lookup onInvalidVariable = env.settings.lookup onInvalidVariable →
        (ofEnvironment env').1.onInvalid = config.onInvalid) ∧
      (env'.settings.lookup diagMaxVariable = env.settings.lookup diagMaxVariable →
        (ofEnvironment env').1.diagMax = config.diagMax)) ∧
    ofEnvironment (env.without (rejected.map RejectedVariable.name)) = (config, []) := by
  intro config rejected
  have hconfig : config = _ := config_eq env
  refine ⟨⟨_, _, _, _, rejected_eq env, ?_, ?_, ?_, ?_⟩, ?_, ?_, ?_, ofEnvironment_without env⟩
  · rw [hconfig]
    exact decides_readVariable readBindPolicy_eq_some_iff _
  · rw [hconfig]
    exact decides_readVariable readPositiveSize_eq_some_iff _
  · rw [hconfig]
    exact decides_readVariable readInvalidPolicy_eq_some_iff _
  · rw [hconfig]
    exact decides_readVariable readPositiveSize_eq_some_iff _
  · rw [hconfig]
    exact getD_readVariable_ne_zero env closedQueueMaxVariable (by decide)
  · rw [hconfig]
    exact getD_readVariable_ne_zero env diagMaxVariable (by decide)
  · intro env'
    have hsame : ∀ {α : Type} (name : String) (read : String → Option α) (default : α),
        env'.settings.lookup name = env.settings.lookup name →
        (readVariable env' name read).1.getD default =
          (readVariable env name read).1.getD default := by
      intro α name read default h
      rw [readVariable_congr h]
    exact ⟨hsame singletonVariable readBindPolicy _,
      hsame closedQueueMaxVariable readPositiveSize _,
      hsame onInvalidVariable readInvalidPolicy _, hsame diagMaxVariable readPositiveSize _⟩

/-- The largest size there is, with a plus sign, leading zeros and blanks that are not ASCII; a policy
in letters of either case; a size that is too large by one; and a value that is not UTF-8. -/
theorem environment_exact_at_limits :
    let env : Environment := ⟨[("HOME", "/".toUTF8),
      (diagMaxVariable, "18446744073709551616".toUTF8),
      (closedQueueMaxVariable, "\u2003+0018446744073709551615\u3000\n".toUTF8),
      (onInvalidVariable, " ErRoR".toUTF8), (singletonVariable, ⟨#[0x30, 0xff]⟩)]⟩
    let config := (ofEnvironment env).1
    config.bindPolicy = .singleton ∧ config.closedQueueMax = 18446744073709551615 ∧
      config.onInvalid = .report ∧ config.diagMax = 4096 ∧
      (ofEnvironment env).2 = [⟨diagMaxVariable, "18446744073709551616"⟩] ∧
      ofEnvironment (env.without [diagMaxVariable]) = (config, []) := by
  intro env config
  obtain ⟨⟨r₁, r₂, r₃, r₄, hrejected, hsingleton, hqueue, hpolicy, hlog⟩, -, -, -, hwithout⟩ :=
    environment_exact env
  have hbytes : ∀ value : String, env.settings.lookup singletonVariable ≠ some value.toUTF8 := by
    intro value hlookup
    have hvalid : ¬ByteArray.IsValidUTF8 ⟨#[0x30, 0xff]⟩ := by decide
    simp [env, diagMaxVariable, closedQueueMaxVariable, onInvalidVariable, singletonVariable,
      List.lookup_cons] at hlookup
    exact hvalid (hlookup ▸ value.isValidUTF8)
  obtain ⟨hbind, rfl⟩ := hsingleton.unset hbytes
  obtain ⟨hsize, rfl⟩ := hqueue.taken "\u2003+0018446744073709551615\u3000\n" 18446744073709551615
    (by simp [env, diagMaxVariable, closedQueueMaxVariable, List.lookup_cons])
    (readPositiveSize_eq_some_iff.mp (by decide +kernel))
  obtain ⟨hreport, rfl⟩ := hpolicy.taken " ErRoR" .report
    (by simp [env, diagMaxVariable, closedQueueMaxVariable, onInvalidVariable, List.lookup_cons])
    (readInvalidPolicy_eq_some_iff.mp (by decide +kernel))
  obtain ⟨hmax, rfl⟩ := hlog.rejected "18446744073709551616"
    (by simp [env, diagMaxVariable, List.lookup_cons]) (by
      intro v hsays
      have hnone : readPositiveSize "18446744073709551616" = none := by decide +kernel
      rw [readPositiveSize_eq_some_iff.mpr hsays] at hnone
      cases hnone)
  rw [hrejected] at hwithout
  exact ⟨hbind, hsize, hreport, hmax, hrejected, hwithout⟩

end Config

end HandleGuard
