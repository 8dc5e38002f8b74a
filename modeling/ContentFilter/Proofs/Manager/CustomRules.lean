import ContentFilter.Proofs.Compilation.ByCategory
import ContentFilter.Proofs.Compilation.Precedence
import ContentFilter.Proofs.Manager.Restoring

/-!
# Custom rules that are compiled

A custom rule is stored if its text can be read as a filter.  It is compiled if, besides, the pattern of
the filter is a valid expression and an id is left; so a stored rule may have no compiled one.
-/

namespace ContentFilter

/-- Whether a custom rule can be compiled: its text is read as a filter whose pattern is valid. -/
def CustomRule.isCompilable (rule : CustomRule) : Bool := rule.toFilter?.any (·.isAccepted)

theorem RuleDraft.isSome_ofCustomRule? (config : CompilerConfig) (rule : CustomRule) :
    (ofCustomRule? config rule).isSome = rule.isCompilable := by
  rw [CustomRule.isCompilable]
  rcases ofCustomRule?_cases config rule with
    ⟨refused, none⟩ | ⟨filter, draft, read, accepted, drafted, -⟩
  · rw [none, Option.isSome_none, eq_comm, Option.any_eq_false]
    intro filter read
    simpa using refused filter read
  · rw [drafted, read, Option.isSome_some, Option.any_some, accepted]

namespace Manager

section Unchanged

variable {β : Type}

theorem customRules_insertList (manager : Manager β) (fresh : CachedList) :
    (manager.insertList fresh).customRules = manager.customRules := by
  unfold insertList
  split
  · rfl
  · rfl

theorem customRules_conclude (manager : Manager β) (attempt : Attempt β) :
    (manager.conclude attempt).customRules = manager.customRules := by
  unfold conclude
  split
  · rfl
  · rfl

end Unchanged

variable {β : Type} [RuleBackend β] {config : CompilerConfig} {manager after : Manager β}

/-- Every stored custom rule can be read as a filter. -/
theorem Reachable.isSome_toFilter? (reachable : Reachable config manager) :
    ∀ rule ∈ manager.customRules, rule.toFilter?.isSome := by
  induction reachable with
  | new backend =>
    intro rule member
    cases member
  | insertList before fits ih =>
    rw [customRules_insertList]
    exact ih
  | upsertList before list length time ih =>
    rw [Manager.upsertList, customRules_insertList]
    exact ih
  | removeList before removed ih =>
    obtain ⟨-, rfl⟩ := removeList?_eq_some_iff.1 removed
    exact ih
  | setListEnabled before switched ih =>
    obtain ⟨index, -, rfl⟩ := Option.map_eq_some_iff.1 switched
    exact ih
  | recordFetchFailure before recorded ih =>
    obtain ⟨index, -, rfl⟩ := Option.map_eq_some_iff.1 recorded
    exact ih
  | addCustomRule before time id added ih =>
    obtain ⟨-, read, rfl⟩ := addCustomRule_eq_ok_iff.1 added
    intro rule member
    rcases List.mem_append.1 member with among | last
    · exact ih rule among
    · rw [List.mem_singleton.1 last]
      exact read
  | removeCustomRule before removed ih =>
    obtain ⟨-, rfl⟩ := removeCustomRule?_eq_some_iff.1 removed
    exact fun rule member => ih rule (List.mem_filter.1 member).1
  | setUserDomains before whitelist blacklist ih => exact ih
  | setEnabledCategories before categories ih => exact ih
  | concluded before start ih _ =>
    rw [customRules_conclude]
    exact ih
  | withBackend before backend ih => exact ih
  | withGate before gate ih => exact ih

/-- What a recompilation has made of the custom rules. -/
structure CompilesCustom (manager after : Manager β) : Prop where
  stored : after.customRules = manager.customRules
  /-- Whatever is stored can be read. -/
  readable : ∀ rule ∈ manager.customRules, rule.toFilter?.isSome
  /-- The rules that have a draft got the ids of the band in their order. -/
  compiled : after.compiledRules.filter (·.category == .custom) =
    List.zipWith RuleDraft.toRule
      (manager.customRules.filterMap (RuleDraft.ofCustomRule? manager.config))
      (manager.config.idSpace.ids .custom)
  /-- Compiled are those with a valid pattern, as many as there are ids. -/
  count : after.compiledRules.countP (·.category == .custom) =
    min (manager.customRules.countP (·.isCompilable)) (manager.config.idSpace.capacity .custom)
  /-- Only the width of the band limits them if all patterns are valid, or enough are to fill it. -/
  complete_iff : after.compiledRules.countP (·.category == .custom) =
      min manager.customRules.length (manager.config.idSpace.capacity .custom) ↔
    (∀ rule ∈ manager.customRules, rule.isCompilable) ∨
      manager.config.idSpace.capacity .custom ≤ manager.customRules.countP (·.isCompilable)

/-- A recompilation that succeeds compiles the stored custom rules whose pattern is valid, and leaves out
just those whose pattern is not, up to the width of the band. -/
theorem Reachable.compilesCustom {ranges : List IdRange}
    (accepted : IdSpace.ofRanges ranges = .ok config.idSpace) (reachable : Reachable config manager)
    {report : SyncReport} (ran : manager.recompile = (.ran (.ok report), after)) :
    manager.CompilesCustom after := by
  obtain ⟨compilation, compiled, good, -⟩ := served_of_recompile ran
  have bands : IdSpace.Valid manager.config.idSpace.ranges := by
    rw [reachable.config_eq]
    exact IdSpace.valid_of_ofRanges accepted
  have rules : after.compiledRules.filter (·.category == .custom) =
      List.zipWith RuleDraft.toRule
        (manager.customRules.filterMap (RuleDraft.ofCustomRule? manager.config))
        (manager.config.idSpace.ids .custom) := by
    rw [compiledRules, good, Option.map_some, Option.getD_some,
      (compile_inv compiled).filter_own bands rfl, CompileInput.rulesOf,
      CompileInput.draftsOf_custom, compileInput]
  have drafts : (manager.customRules.filterMap (RuleDraft.ofCustomRule? manager.config)).length =
      manager.customRules.countP (·.isCompilable) := by
    rw [List.length_filterMap_eq_countP]
    simp only [RuleDraft.isSome_ofCustomRule?]
  have count : after.compiledRules.countP (·.category == .custom) =
      min (manager.customRules.countP (·.isCompilable))
        (manager.config.idSpace.capacity .custom) := by
    rw [List.countP_eq_length_filter, rules, List.length_zipWith, drafts, IdSpace.length_ids]
  have limits : ∀ {made stored room : Nat}, made ≤ stored →
      (min made room = min stored room ↔ made = stored ∨ room ≤ made) := by omega
  refine ⟨?_, reachable.isSome_toFilter?, rules, count, ?_⟩
  · rw [recompile_of_idle (idle_of_recompile ran), Prod.mk.injEq] at ran
    rw [← ran.2, customRules_conclude]
  · rw [count, ← List.countP_eq_length]
    have few := List.countP_le_length (p := CustomRule.isCompilable) (l := manager.customRules)
    exact limits few

/-- A new manager to which custom rules were added. -/
def holding (rules : List CustomRule) : Manager MemoryBackend :=
  { new .standard (.new .standard) with customRules := rules }

/-- A rule whose expression has an open group. -/
def openGroup : CustomRule := ⟨7, "/(/", .block, 7⟩

/-- A rule for a domain. -/
def bareDomain : CustomRule := ⟨8, "ads.test", .block, 7⟩

theorem reachable_openGroup : Reachable .standard (holding [openGroup]) := by
  have added : (holding []).addCustomRule "/(/" .block 7 = .ok (openGroup, holding [openGroup]) :=
    addCustomRule_eq_ok_iff.2 ⟨by decide +kernel, by decide +kernel, rfl⟩
  exact (Reachable.new _).addCustomRule (by decide) (by decide) added

theorem reachable_openGroup_bareDomain :
    Reachable .standard (holding [openGroup, bareDomain]) := by
  have added : (holding [openGroup]).addCustomRule "ads.test" .block 7 =
      .ok (bareDomain, holding [openGroup, bareDomain]) :=
    addCustomRule_eq_ok_iff.2 ⟨by decide +kernel, by decide +kernel, rfl⟩
  exact reachable_openGroup.addCustomRule (by decide) (by decide) added

/-- The report of a recompilation that succeeds. -/
def Recompiled.report? : Recompiled → Option SyncReport
  | .ran (.ok report) => some report
  | .ran (.error _) | .coalesced => none

theorem exists_recompile (manager : Manager β) (reports : manager.recompile.1.report?.isSome) :
    ∃ report, manager.recompile = (.ran (.ok report), manager.recompile.2) := by
  rcases ran : manager.recompile with ⟨(failure | report) | _, after⟩
  · rw [ran] at reports
    cases reports
  · exact ⟨report, rfl⟩
  · rw [ran] at reports
    cases reports

/-- A domain that is compiled behind an expression that is not. -/
theorem compilesCustom_bareDomain :
    IdSpace.ofRanges IdSpace.builtIn.ranges = .ok CompilerConfig.standard.idSpace ∧
      Reachable .standard (holding [openGroup, bareDomain]) ∧
      ∃ report after, (holding [openGroup, bareDomain]).recompile = (.ran (.ok report), after) ∧
        (holding [openGroup, bareDomain]).CompilesCustom after := by
  have accepted : IdSpace.ofRanges IdSpace.builtIn.ranges = .ok CompilerConfig.standard.idSpace := rfl
  have reachable := reachable_openGroup_bareDomain
  obtain ⟨report, ran⟩ := exists_recompile (holding [openGroup, bareDomain]) (by decide +kernel)
  exact ⟨accepted, reachable, report, _, ran, reachable.compilesCustom accepted ran⟩

/-- A rule that was added and that no compiled rule follows from, though ids are left. -/
theorem not_compilesAll_openGroup :
    Reachable .standard (holding [openGroup]) ∧
      ∃ report after, (holding [openGroup]).recompile = (.ran (.ok report), after) ∧
        after.compiledRules.countP (·.category == .custom) ≠
          min (holding [openGroup]).customRules.length
            (CompilerConfig.standard.idSpace.capacity .custom) := by
  obtain ⟨report, ran⟩ := exists_recompile (holding [openGroup]) (by decide +kernel)
  exact ⟨reachable_openGroup, report, _, ran, by decide +kernel⟩

end Manager

end ContentFilter
