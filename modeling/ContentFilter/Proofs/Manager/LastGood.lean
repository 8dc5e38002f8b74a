import ContentFilter.Proofs.Compilation.Numbering
import ContentFilter.Proofs.Manager.Operations
import ContentFilter.Proofs.Sync.Calls

/-!
# The last good compilation

A manager without an error has installed just the rules of its last good compilation, whatever was done
with it; and a recompilation that fails leaves everything that is served as it was.
-/

namespace ContentFilter

namespace Manager

section Attempt

variable {β : Type} [RuleBackend β] {manager : Manager β}

/-- A run that nothing has triggered meanwhile ends with its attempt. -/
theorem finish_conclude (idle : manager.gate = .idle) (attempt : Attempt β) :
    ({ manager with gate := .running }.conclude attempt).finish attempt.report =
      (.ran attempt.report, manager.conclude attempt) := by
  obtain ⟨backend, result, called⟩ := attempt
  cases manager with
  | mk config lists customRules whitelist blacklist enabled lastGood lastError ids churn held gate =>
    cases idle
    rcases result with failure | ⟨compilation, report⟩
    · rfl
    · rfl

/-- With no run under way, a recompilation is one attempt, and its result that of the attempt. -/
theorem recompile_of_idle (idle : manager.gate = .idle) :
    manager.recompile = (.ran manager.attempt.report, manager.conclude manager.attempt) := by
  -- the attempt does not look at the gate
  have begun : { manager with gate := .running }.attempt = manager.attempt := rfl
  unfold recompile recompileWith
  rw [idle]
  simp only [Gate.trigger, begun]
  split
  · rw [finish_conclude idle]
  · rw [finish_conclude idle]

/-- An attempt brings the backend to the compiled rules. -/
theorem attempt_of_compiled {compilation : Compilation}
    (compiled : compile manager.compileInput manager.config = .ok compilation) :
    manager.attempt.backend = (Sync.synchronize manager.backend compilation.rules).1 ∧
      manager.attempt.result =
        (Sync.synchronize manager.backend compilation.rules).2.map (compilation, ·) := by
  unfold attempt Sync.synchronize
  rw [compiled]
  dsimp only
  rcases Sync.plan manager.backend compilation.rules with failure | plan
  · exact ⟨rfl, rfl⟩
  · exact ⟨rfl, rfl⟩

/-- An attempt fails if there is no compilation, and otherwise brings the backend to the compiled
rules. -/
theorem attempt_cases (manager : Manager β) :
    (∃ failure, manager.attempt.backend = manager.backend ∧
      manager.attempt.result = .error failure) ∨
    (∃ compilation, compile manager.compileInput manager.config = .ok compilation ∧
      manager.attempt.backend = (Sync.synchronize manager.backend compilation.rules).1 ∧
      manager.attempt.result =
        (Sync.synchronize manager.backend compilation.rules).2.map (compilation, ·)) := by
  rcases compiled : compile manager.compileInput manager.config with failure | compilation
  · refine .inl ⟨failure, ?_⟩
    unfold attempt
    rw [compiled]
    exact ⟨rfl, rfl⟩
  · exact .inr ⟨compilation, rfl, attempt_of_compiled compiled⟩

end Attempt

section Recompilation

variable {manager : Manager MemoryBackend}

/-- A recompilation that succeeds installs the rules of its compilation, which becomes the last good
one. -/
theorem recompile_eq_ok (valid : IdSpace.Valid manager.config.idSpace.ranges)
    (idle : manager.gate = .idle) {report : SyncReport} {after : Manager MemoryBackend}
    (h : manager.recompile = (.ran (.ok report), after)) :
    ∃ compilation, compile manager.compileInput manager.config = .ok compilation ∧
      after.lastGood = some compilation ∧ after.lastError = none ∧
      after.backend.table.rules = compilation.rules := by
  rw [recompile_of_idle idle, Prod.mk.injEq, Recompiled.ran.injEq] at h
  obtain ⟨reported, rfl⟩ := h
  rcases manager.attempt_cases with ⟨failure, -, result⟩ | ⟨compilation, compiled, backend, result⟩
  · rw [Attempt.report, result] at reported
    cases reported
  · rcases answer : Sync.synchronize manager.backend compilation.rules with ⟨behind, failure | done⟩
    · rw [Attempt.report, result, answer] at reported
      cases reported
    · rw [answer] at backend result
      have ordered := (compile_inv compiled).pairwise_rules valid
      have distinct := RuleTable.nodup_ids_of_pairwise ordered
      refine ⟨compilation, compiled, ?_, ?_, ?_⟩
      · rw [conclude, result]
        rfl
      · rw [conclude, result]
        rfl
      · rw [conclude, result]
        show manager.attempt.backend.table.rules = compilation.rules
        rw [backend, Sync.rules_of_synchronize_eq_ok distinct answer, sortById_eq_self ordered]

/-- A recompilation that fails notes the failure and changes nothing else, but for the backend where
the failure is one of synchronization. -/
theorem recompile_eq_error (idle : manager.gate = .idle) {failure : RuleSetError}
    {after : Manager MemoryBackend} (h : manager.recompile = (.ran (.error failure), after)) :
    after = { manager with lastError := some failure, backend := after.backend } ∧
      ((∃ cause removed added, failure = .syncFailed cause removed added) ∨
        after.backend = manager.backend) := by
  rw [recompile_of_idle idle, Prod.mk.injEq, Recompiled.ran.injEq] at h
  obtain ⟨reported, rfl⟩ := h
  have failed : manager.attempt.result = .error failure := by
    rcases result : manager.attempt.result with cause | ⟨compilation, report⟩
    · rw [Attempt.report, result] at reported
      cases reported
      rfl
    · rw [Attempt.report, result] at reported
      cases reported
  have concluded : manager.conclude manager.attempt =
      { manager with backend := manager.attempt.backend, lastError := some failure } := by
    rw [conclude, failed]
  rw [concluded]
  refine ⟨rfl, ?_⟩
  rcases manager.attempt_cases with ⟨_, backend, _⟩ | ⟨compilation, -, backend, result⟩
  · exact .inr backend
  · rcases answer : Sync.synchronize manager.backend compilation.rules with ⟨behind, cause | done⟩
    · rw [answer] at backend result
      rw [failed] at result
      cases result
      rcases Sync.synchronize_eq_error answer with cut | same
      · exact .inl cut
      · exact .inr (backend.trans same)
    · rw [answer, failed] at result
      cases result

end Recompilation

/-! ## Along all operations -/

/-- What holds of a manager between operations: no run is under way, and without an error just the
rules of the last good compilation are installed. -/
structure Consistent (config : CompilerConfig) (manager : Manager MemoryBackend) : Prop where
  config : manager.config = config
  idle : manager.gate = .idle
  installed : ∀ compilation, manager.lastGood = some compilation → manager.lastError = none →
    manager.backend.table.rules = compilation.rules

namespace Consistent

variable {config : CompilerConfig} {manager : Manager MemoryBackend}

theorem new (config : CompilerConfig) (backend : MemoryBackend) :
    Consistent config (.new config backend) := by
  refine ⟨rfl, rfl, ?_⟩
  intro compilation good
  cases good

theorem load {σ : Type} [KeyValueStore σ] {backend : MemoryBackend} {store : σ}
    (h : Manager.load config backend store = .ok manager) : Consistent config manager := by
  have restored : manager.config = config ∧ manager.gate = .idle ∧ manager.lastGood = none := by
    unfold Manager.load at h
    simp only [bind, Except.bind, pure, Except.pure] at h
    repeat' split at h
    all_goals cases h
    exact ⟨rfl, rfl, rfl⟩
  refine ⟨restored.1, restored.2.1, ?_⟩
  intro compilation good
  rw [restored.2.2] at good
  cases good

theorem edited (consistent : manager.Consistent config) {after : Manager MemoryBackend}
    (edited : manager.Edited after) : after.Consistent config := by
  refine ⟨edited.config.trans consistent.config, edited.gate.trans consistent.idle, ?_⟩
  rw [edited.lastGood, edited.lastError, edited.backend]
  exact consistent.installed

/-- A recompilation installs what it compiles, or leaves an error. -/
theorem recompile (consistent : manager.Consistent config)
    (valid : IdSpace.Valid config.idSpace.ranges) : manager.recompile.2.Consistent config := by
  have ran := recompile_of_idle consistent.idle
  rcases reported : manager.attempt.report with failure | report
  · rw [reported] at ran
    obtain ⟨noted, -⟩ := recompile_eq_error consistent.idle ran
    rw [ran, noted]
    refine ⟨consistent.config, consistent.idle, ?_⟩
    intro compilation _ sound
    cases sound
  · rw [reported] at ran
    rw [← consistent.config] at valid
    obtain ⟨compilation, -, good, -, installed⟩ := recompile_eq_ok valid consistent.idle ran
    rw [ran]
    refine ⟨?_, ?_, ?_⟩
    · rw [conclude]
      split
      · exact consistent.config
      · exact consistent.config
    · rw [conclude]
      split
      · exact consistent.idle
      · exact consistent.idle
    · intro other same _
      rw [good, Option.some.injEq] at same
      rw [← same]
      exact installed

theorem apply {σ : Type} [KeyValueStore σ] {scene : Scene σ}
    (consistent : scene.manager.Consistent config) (valid : IdSpace.Valid config.idSpace.ranges)
    (operation : Operation) : (scene.apply operation).manager.Consistent config := by
  rcases scene.apply_cases operation with edited | ⟨-, recompiled⟩ | ⟨number, -, injected⟩
  · exact consistent.edited edited
  · rw [recompiled]
    exact consistent.recompile valid
  · rw [injected]
    exact ⟨consistent.config, consistent.idle, consistent.installed⟩

end Consistent

/-- What a recompilation that failed has changed: the error is noted, and the backend may differ if the
failure is one of synchronization. -/
structure Noted (failure : RuleSetError) (before after : Manager MemoryBackend) : Prop where
  only : after = { before with lastError := some failure, backend := after.backend }
  backend : (∃ cause removed added, failure = .syncFailed cause removed added) ∨
    after.backend = before.backend
  lastGood : after.lastGood = before.lastGood
  compiledRules : after.compiledRules = before.compiledRules
  cosmeticsFor : ∀ domain, after.cosmeticsFor domain = before.cosmeticsFor domain
  scriptletsFor : ∀ domain, after.scriptletsFor domain = before.scriptletsFor domain
  previousRuleIds : after.previousRuleIds = before.previousRuleIds
  ruleIdChurn : after.ruleIdChurn = before.ruleIdChurn

/-- What is promised of a manager between operations. -/
structure Faithful (manager : Manager MemoryBackend) : Prop where
  /-- Without an error just the rules of the last good compilation are installed. -/
  installed : ∀ compilation, manager.lastGood = some compilation → manager.lastError = none →
    manager.backend.table.rules = compilation.rules
  /-- A recompilation runs. -/
  runs : ∃ result after, manager.recompile = (.ran result, after)
  /-- A recompilation that succeeds compiles what is set, and installs the rules. -/
  renewed : ∀ report after, manager.recompile = (.ran (.ok report), after) →
    ∃ compilation, compile manager.compileInput manager.config = .ok compilation ∧
      after.lastGood = some compilation ∧ after.lastError = none ∧
      after.backend.table.rules = compilation.rules
  /-- A recompilation that fails leaves alone what is served. -/
  undisturbed : ∀ failure after, manager.recompile = (.ran (.error failure), after) →
    Noted failure manager after

theorem Consistent.faithful {config : CompilerConfig} {manager : Manager MemoryBackend}
    (consistent : manager.Consistent config) (valid : IdSpace.Valid config.idSpace.ranges) :
    manager.Faithful := by
  rw [← consistent.config] at valid
  refine ⟨consistent.installed, ⟨_, _, recompile_of_idle consistent.idle⟩,
    fun _ _ => recompile_eq_ok valid consistent.idle, ?_⟩
  intro failure after h
  obtain ⟨only, backend⟩ := recompile_eq_error consistent.idle h
  have good : after.lastGood = manager.lastGood := by rw [only]
  refine ⟨only, backend, good, ?_, ?_, ?_, ?_, ?_⟩
  · rw [compiledRules, compiledRules, good]
  · intro domain
    rw [cosmeticsFor, cosmeticsFor, good]
  · intro domain
    rw [scriptletsFor, scriptletsFor, good]
  · rw [only]
  · rw [only]

/-- Whatever is done to a manager, new or restored from a store: without an error just the rules of its
last good compilation are installed, and a recompilation that fails leaves alone what is served. -/
theorem faithful_run {σ : Type} [KeyValueStore σ] {config : CompilerConfig} {ranges : List IdRange}
    (accepted : IdSpace.ofRanges ranges = .ok config.idSpace) {backend : MemoryBackend}
    {manager : Manager MemoryBackend}
    (initial : manager = .new config backend ∨
      ∃ earlier : σ, Manager.load config backend earlier = .ok manager)
    (store : σ) (operations : List Operation) :
    ((Scene.mk manager store).run operations).manager.Faithful := by
  have valid := IdSpace.valid_of_ofRanges accepted
  have start : manager.Consistent config := by
    rcases initial with rfl | ⟨earlier, loaded⟩
    · exact .new config backend
    · exact .load loaded
  have consistent : ((Scene.mk manager store).run operations).manager.Consistent config := by
    apply Scene.run_induct (motive := fun scene => scene.manager.Consistent config) start
    intro scene operation before
    exact before.apply valid operation
  exact consistent.faithful valid

/-- A recompilation that succeeds, one that is cut behind an edit, and one that completes its work. -/
def interruption : List Operation :=
  [.setUserDomains ["a.io"] [], .recompile, .failOnCall 2, .setUserDomains ["b.io"] ["c.io"],
    .recompile, .save, .recompile]

/-- A new manager stays faithful through an interruption. -/
theorem faithful_run_interruption :
    IdSpace.ofRanges IdSpace.builtIn.ranges = .ok CompilerConfig.standard.idSpace ∧
      ((Scene.mk (.new .standard (.new .standard)) MemoryStore.empty).run
        interruption).manager.Faithful := by
  have accepted : IdSpace.ofRanges IdSpace.builtIn.ranges = .ok CompilerConfig.standard.idSpace := rfl
  exact ⟨accepted, faithful_run accepted (.inl rfl) MemoryStore.empty interruption⟩

end Manager

end ContentFilter
