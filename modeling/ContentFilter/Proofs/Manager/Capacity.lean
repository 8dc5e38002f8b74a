import ContentFilter.Proofs.Compilation.Ceiling
import ContentFilter.Proofs.Manager.LastGood
import ContentFilter.Proofs.Sync.Exact

/-!
# Recompilation and the limit of the backend

The lists of a manager get only the room that the user's own rules leave in the backend.  So a
recompilation that nothing disturbs fails only where the user's own rules alone do not fit, and then
before the backend is called.
-/

namespace ContentFilter

namespace Manager

/-- Whether a recompilation that nothing comes between succeeds. -/
def Succeeds (manager : Manager MemoryBackend) : Prop :=
  ∃ report after, manager.recompile = (.ran (.ok report), after)

section Attempt

variable {manager : Manager MemoryBackend} {compilation : Compilation}
  (compiled : compile manager.compileInput manager.config = .ok compilation)
include compiled

/-- What does not fit is refused without a call. -/
theorem attempt_of_not_fits
    (large : manager.backend.limits.maxRules < compilation.rules.length) :
    manager.attempt = ⟨manager.backend,
      .error (.backendCapacity compilation.rules.length manager.backend.limits.maxRules), false⟩ := by
  have refused : Sync.plan manager.backend compilation.rules =
      .error (.backendCapacity compilation.rules.length manager.backend.limits.maxRules) :=
    if_pos large
  simp only [attempt, compiled, refused]

theorem recompile_of_not_fits (idle : manager.gate = .idle)
    (large : manager.backend.limits.maxRules < compilation.rules.length) :
    manager.recompile =
      (.ran (.error (.backendCapacity compilation.rules.length manager.backend.limits.maxRules)),
        { manager with
          lastError :=
            some (.backendCapacity compilation.rules.length manager.backend.limits.maxRules) }) := by
  rw [recompile_of_idle idle, attempt_of_not_fits compiled large]
  rfl

/-- What fits is installed, unless a failure is injected into one of the calls. -/
theorem succeeds_of_fits (bands : IdSpace.Valid manager.config.idSpace.ranges)
    (idle : manager.gate = .idle) (positive : 0 < manager.backend.limits.maxBatch)
    (room : manager.backend.table.size ≤ manager.backend.limits.maxRules)
    (spared : ¬ Sync.Struck manager.backend compilation.rules)
    (fits : compilation.rules.length ≤ manager.backend.limits.maxRules) : manager.Succeeds := by
  have distinct := RuleTable.nodup_ids_of_pairwise ((compile_inv compiled).pairwise_rules bands)
  obtain ⟨after, report, ran, -⟩ :=
    Sync.finished_of_not_struck positive distinct fits room spared
  have reported : manager.attempt.report = .ok report := by
    rw [Attempt.report, (attempt_of_compiled compiled).2, ran]
    rfl
  exact ⟨report, manager.conclude manager.attempt, by rw [recompile_of_idle idle, reported]⟩

end Attempt

/-- A backend into none of whose calls to come a failure is injected. -/
def Unharmed (backend : MemoryBackend) : Prop :=
  ∀ number, backend.failOnCall = some number → number ≤ backend.calls

theorem Unharmed.not_struck {backend : MemoryBackend} (unharmed : Unharmed backend)
    (target : List CompiledRule) : ¬ Sync.Struck backend target := by
  rintro ⟨number, fails, later, -⟩
  have := unharmed number fails
  omega

/-- A recompilation that nothing disturbs: no run is under way, the settings are valid, and the backend
keeps to its limits and takes calls. -/
structure Undisturbed (manager : Manager MemoryBackend) : Prop where
  bands : IdSpace.Valid manager.config.idSpace.ranges
  valid : manager.config.validate = .ok ()
  idle : manager.gate = .idle
  positive : 0 < manager.backend.limits.maxBatch
  room : manager.backend.table.size ≤ manager.backend.limits.maxRules
  unharmed : Unharmed manager.backend

namespace Undisturbed

variable {manager : Manager MemoryBackend}

/-- Only the user's own entries decide whether a recompilation succeeds. -/
theorem succeeds_iff (undisturbed : manager.Undisturbed) :
    manager.Succeeds ↔ (manager.compileInput.userEmission manager.config).rules.length ≤
      manager.backend.limits.maxRules := by
  obtain ⟨compilation, compiled⟩ := exists_compile manager.compileInput undisturbed.valid
  have h := compile_inv compiled
  rw [← h.length_ownRules]
  rcases h.length_rules_of_budget rfl with ⟨own, fits⟩ | ⟨own, all⟩
  · refine iff_of_true ?_ own
    exact succeeds_of_fits compiled undisturbed.bands undisturbed.idle undisturbed.positive
      undisturbed.room (undisturbed.unharmed.not_struck _) fits
  · refine iff_of_false ?_ (Nat.not_le.2 own)
    rintro ⟨report, after, ran⟩
    rw [recompile_of_not_fits compiled undisturbed.idle (all ▸ own)] at ran
    cases ran

/-- Lists have no part in whether a recompilation is disturbed. -/
theorem withLists (undisturbed : manager.Undisturbed) (lists : List CachedList) :
    { manager with lists }.Undisturbed :=
  ⟨undisturbed.bands, undisturbed.valid, undisturbed.idle, undisturbed.positive,
    undisturbed.room, undisturbed.unharmed⟩

end Undisturbed

/-- Whether a recompilation of `manager` succeeds, and what it comes to, as far as the room in the
backend decides; `compilation` is that of the manager. -/
structure Bounded (manager : Manager MemoryBackend) (compilation : Compilation) : Prop where
  compiled : compile manager.compileInput manager.config = .ok compilation
  succeeds_iff : manager.Succeeds ↔
    compilation.ownRules.length ≤ manager.backend.limits.maxRules
  /-- Success installs just the compiled rules. -/
  installed : ∀ report after, manager.recompile = (.ran (.ok report), after) →
    after.backend.table.rules = compilation.rules
  /-- Failure counts the user's own rules, notes that they do not fit, and makes no call. -/
  refused : manager.backend.limits.maxRules < compilation.ownRules.length →
    ∃ failure, failure =
        .backendCapacity compilation.ownRules.length manager.backend.limits.maxRules ∧
      manager.recompile =
        (.ran (.error failure), { manager with lastError := some failure }) ∧
      manager.attempt.called = false
  /-- Other lists in place of those subscribed make no difference. -/
  lists : ∀ lists, { manager with lists }.Succeeds ↔ manager.Succeeds

/-- A recompilation that nothing disturbs succeeds just where the user's own rules fit the backend. -/
theorem recompile_bounded {manager : Manager MemoryBackend} {ranges : List IdRange}
    (accepted : IdSpace.ofRanges ranges = .ok manager.config.idSpace)
    (valid : manager.config.validate = .ok ()) (idle : manager.gate = .idle)
    (positive : 0 < manager.backend.limits.maxBatch)
    (room : manager.backend.table.size ≤ manager.backend.limits.maxRules)
    (unharmed : Unharmed manager.backend) : ∃ compilation, manager.Bounded compilation := by
  have bands := IdSpace.valid_of_ofRanges accepted
  have undisturbed : manager.Undisturbed := ⟨bands, valid, idle, positive, room, unharmed⟩
  obtain ⟨compilation, compiled⟩ := exists_compile manager.compileInput valid
  have h := compile_inv compiled
  refine ⟨compilation, compiled, ?_, ?_, ?_, ?_⟩
  · rw [undisturbed.succeeds_iff, h.length_ownRules]
  · intro report after ran
    obtain ⟨other, same, -, -, installed⟩ := recompile_eq_ok bands idle ran
    rw [compiled, Except.ok.injEq] at same
    rw [installed, same]
  · intro large
    rcases h.length_rules_of_budget rfl with ⟨own, -⟩ | ⟨-, all⟩
    · exact absurd own (Nat.not_le.2 large)
    · rw [← all] at large ⊢
      exact ⟨_, rfl, recompile_of_not_fits compiled idle large,
        congrArg Attempt.called (attempt_of_not_fits compiled large)⟩
  · intro lists
    -- the emission of the user's entries does not look at the lists
    rw [(undisturbed.withLists lists).succeeds_iff, undisturbed.succeeds_iff]
    rfl

/-- A manager whose backend has room for two rules, both of which the user's own entries take. -/
def crampedManager : Manager MemoryBackend :=
  { Manager.new .standard (.new ⟨2, 1⟩) with
    lists := [.ofText (.new "base" "https://lists.test/base" .ads) "||a.io^\n||b.io^\n||c.io^" 1]
    whitelist := ["d.io"]
    blacklist := ["e.io"] }

/-- Full lists do not keep a recompilation from succeeding. -/
theorem recompile_bounded_cramped :
    IdSpace.ofRanges IdSpace.builtIn.ranges = .ok crampedManager.config.idSpace ∧
      crampedManager.config.validate = .ok () ∧ crampedManager.gate = .idle ∧
      0 < crampedManager.backend.limits.maxBatch ∧
      crampedManager.backend.table.size ≤ crampedManager.backend.limits.maxRules ∧
      Unharmed crampedManager.backend ∧
      ∃ compilation, crampedManager.Bounded compilation := by
  have accepted : IdSpace.ofRanges IdSpace.builtIn.ranges =
      .ok crampedManager.config.idSpace := rfl
  have valid : crampedManager.config.validate = .ok () := rfl
  have idle : crampedManager.gate = .idle := rfl
  have positive : 0 < crampedManager.backend.limits.maxBatch := by decide
  have room : crampedManager.backend.table.size ≤ crampedManager.backend.limits.maxRules :=
    Nat.zero_le 2
  have unharmed : Unharmed crampedManager.backend := by
    intro number fails
    cases fails
  exact ⟨accepted, valid, idle, positive, room, unharmed,
    recompile_bounded accepted valid idle positive room unharmed⟩

end Manager

end ContentFilter
