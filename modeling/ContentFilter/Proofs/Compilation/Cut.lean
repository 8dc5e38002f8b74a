import ContentFilter.Proofs.Compilation.Assignment

/-!
# What the ceiling takes away

The ceiling on list rules cuts off the last of the rules that lists would have without it; the others
keep their ids and contents.  The user's own rules are as they would be without any list, so that one
more of them costs at most one rule of a list.
-/

namespace ContentFilter

namespace Compilation.IsOf

variable {input : CompileInput} {config : CompilerConfig} {compilation : Compilation}

/-- Compiled rules of any kind are the emitted ones of this kind in the order of their ids. -/
theorem filter_rules (h : compilation.IsOf input config)
    (valid : IdSpace.Valid config.idSpace.ranges) (kind : CompiledRule → Bool) :
    compilation.rules.filter kind =
      sortById ((input.listEmission config).emission.rules.reverse.filter kind) := by
  have permuted : (compilation.rules.filter kind).Perm
      (sortById ((input.listEmission config).emission.rules.reverse.filter kind)) :=
    ((h.perm_rules.trans (List.reverse_perm _).symm).filter kind).trans
      (List.mergeSort_perm _ _).symm
  have distinct : (((input.listEmission config).emission.rules.reverse.filter kind).map
      (·.id)).Nodup := by
    have whole : ((input.listEmission config).emission.rules.map (·.id)).Nodup :=
      (numbered valid).distinct
    rw [← List.nodup_reverse, ← List.map_reverse] at whole
    exact whole.sublist (List.filter_sublist.map _)
  exact permuted.eq_of_pairwise (fun _ _ _ _ below above => absurd below (Nat.lt_asymm above))
    ((h.pairwise_rules valid).filter kind) (pairwise_sortById distinct)

/-- The user's own rules are those of the user's drafts. -/
theorem ownRules_eq (h : compilation.IsOf input config)
    (valid : IdSpace.Valid config.idSpace.ranges) :
    compilation.ownRules = sortById (config.idSpace.rules (input.ownDrafts config)) := by
  have own : (config.idSpace.rules (input.ownDrafts config)).filter (·.isOwn) =
      config.idSpace.rules (input.ownDrafts config) :=
    List.filter_eq_self.2 (input.isOwn_of_mem_rules config _)
  have listed : ((config.idSpace.rules (input.listDrafts config)).take
      (input.ceiling config)).filter (·.isOwn) = [] := by
    rw [List.filter_eq_nil_iff]
    intro rule member
    rw [input.not_isOwn_of_mem_rules config _ rule (List.mem_of_mem_take member)]
    exact Bool.false_ne_true
  rw [ownRules, h.filter_rules valid, (input.rules_listEmission config).1, List.reverse_append,
    List.reverse_reverse, List.reverse_reverse, List.filter_append, own, listed, List.append_nil]

end Compilation.IsOf

namespace CompileInput

/-- An input that compiles as if the backend had room for every rule. -/
def withoutBudget (input : CompileInput) : CompileInput := { input with ruleBudget := none }

end CompileInput

/-- Settings with another ceiling on list rules. -/
def CompilerConfig.withCeiling (config : CompilerConfig) (maxListRules : Nat) : CompilerConfig :=
  { config with maxListRules }

/-- If rules of lists were dropped, the others reach the ceiling. -/
theorem CompileInput.length_emittedListRules (input : CompileInput) {config : CompilerConfig}
    (dropped : (input.listEmission config).capacityDropped ≠ 0) :
    (input.emittedListRules config).length = input.ceiling config := by
  have within := input.within_listEmission config
  obtain ⟨listed, split, count, -⟩ := within.added
  have full : input.ceiling config ≤ (input.listEmission config).emitted := by
    rcases ListEmission.foldl_full config (input.ceiling config)
      ⟨input.userEmission config, 0, [], 0⟩ (Optimizer.optimize input.sourcedFilters).kept with
      none | full
    · exact absurd none dropped
    · exact full
  have below := within.below
  rw [(input.rules_listEmission config).1, rules_userEmission, List.append_left_inj] at split
  rw [emittedListRules_eq, ← List.length_reverse, split, count]
  omega

/-- A ceiling above the number of filters lets every rule through. -/
theorem CompileInput.emittedListRules_withoutBudget (input : CompileInput) (config : CompilerConfig)
    {ample : Nat} (roomy : input.sourcedFilters.length ≤ ample) :
    input.withoutBudget.emittedListRules (config.withCeiling ample) =
      config.idSpace.rules (input.listDrafts config) := by
  have drafts : input.withoutBudget.listDrafts (config.withCeiling ample) =
      input.listDrafts config := listDrafts_congr rfl rfl rfl
  have count : (config.idSpace.rules (input.listDrafts config)).length ≤ ample := calc
    _ ≤ (RuleDraft.ranked [] (input.listDrafts config)).length := List.length_filterMap_le _ _
    _ = (input.listDrafts config).length := RuleDraft.length_ranked _ _
    _ ≤ (Optimizer.optimize input.sourcedFilters).kept.length := List.length_filterMap_le _ _
    _ ≤ input.sourcedFilters.length := (Optimizer.sublist_kept _).length_le
    _ ≤ ample := roomy
  rw [emittedListRules_eq, drafts]
  exact List.take_of_length_le count

/-- A compilation whose ceiling takes away the last of the rules that lists yield without it, `whole`,
and nothing else. -/
structure Compilation.CutsOff (compilation : Compilation) (input : CompileInput)
    (config : CompilerConfig) (whole : List CompiledRule) : Prop where
  /-- The user's own rules depend on neither the lists, the ceiling nor the budget. -/
  own : ∀ (other : CompileInput) (settings : CompilerConfig) (compiled : Compilation),
    other.whitelist = input.whitelist → other.blacklist = input.blacklist →
    other.customRules = input.customRules → settings.idSpace = config.idSpace →
    settings.defaultTypes = config.defaultTypes → compile other settings = .ok compiled →
    compiled.ownRules = compilation.ownRules
  /-- Without a budget the ceiling is that of the settings. -/
  unlimited : input.ruleBudget = none →
    compilation.diagnostics.listCeiling = config.maxListRules
  /-- Of a budget the user's own rules take their part first. -/
  limited : ∀ budget, input.ruleBudget = some budget →
    compilation.diagnostics.listCeiling =
      min config.maxListRules (budget - compilation.ownRules.length)
  /-- The compiled rules of lists are the emitted ones in the order of their ids. -/
  listed : compilation.rules.filter (!·.isOwn) = sortById (input.emittedListRules config)
  /-- These are the first of all that lists yield. -/
  first : input.emittedListRules config = whole.take compilation.diagnostics.listCeiling
  /-- The others are counted as dropped. -/
  dropped : whole.length ≤
    (input.emittedListRules config).length + compilation.diagnostics.capacityDropped
  /-- Nothing is dropped below the ceiling. -/
  full : compilation.diagnostics.capacityDropped ≠ 0 →
    (input.emittedListRules config).length = compilation.diagnostics.listCeiling
  /-- Only the user's own rules can exceed the budget. -/
  total : ∀ budget, input.ruleBudget = some budget → budget < compilation.rules.length →
    budget < compilation.ownRules.length ∧ compilation.rules = compilation.ownRules
  /-- One more rule of the user's own takes the place of the last rule of a list, or of none. -/
  displaced : ∀ (other : CompileInput) (compiled : Compilation), other.lists = input.lists →
    other.enabledCategories = input.enabledCategories → other.ruleBudget = input.ruleBudget →
    compile other config = .ok compiled →
    compiled.ownRules.length = compilation.ownRules.length + 1 →
    other.emittedListRules config = input.emittedListRules config ∨
      other.emittedListRules config = (input.emittedListRules config).dropLast

namespace Compilation.IsOf

variable {input : CompileInput} {config : CompilerConfig} {compilation : Compilation}

/-- The ceiling leaves room for the user's own rules. -/
theorem listCeiling_eq (h : compilation.IsOf input config) :
    compilation.diagnostics.listCeiling =
      listCeiling config.maxListRules input.ruleBudget compilation.ownRules.length := by
  rw [h.ceiling, h.length_ownRules, CompileInput.ceiling]

/-- A compilation beyond its budget has no rule of a list. -/
theorem rules_of_budget_lt (h : compilation.IsOf input config) {budget : Nat}
    (limited : input.ruleBudget = some budget) (beyond : budget < compilation.rules.length) :
    budget < compilation.ownRules.length ∧ compilation.rules = compilation.ownRules := by
  rcases h.length_rules_of_budget limited with ⟨-, within⟩ | ⟨exceeded, same⟩
  · omega
  · refine ⟨exceeded, Eq.symm ?_⟩
    exact List.filter_sublist.eq_of_length same.symm

/-- One more rule of the user's own lowers the ceiling by one or not at all. -/
theorem emittedListRules_displaced (h : compilation.IsOf input config) {other : CompileInput}
    {compiled : Compilation} (hOther : compiled.IsOf other config) (lists : other.lists = input.lists)
    (enabled : other.enabledCategories = input.enabledCategories)
    (budget : other.ruleBudget = input.ruleBudget)
    (oneMore : compiled.ownRules.length = compilation.ownRules.length + 1) :
    other.emittedListRules config = input.emittedListRules config ∨
      other.emittedListRules config = (input.emittedListRules config).dropLast := by
  have lowered : other.ceiling config = input.ceiling config ∨
      other.ceiling config + 1 = input.ceiling config := by
    rw [← h.ceiling, ← hOther.ceiling, h.listCeiling_eq, hOther.listCeiling_eq, budget, oneMore]
    cases input.ruleBudget with
    | none => exact .inl rfl
    | some budget =>
      simp only [listCeiling]
      omega
  rw [CompileInput.emittedListRules_eq, CompileInput.emittedListRules_eq,
    CompileInput.listDrafts_congr lists enabled rfl]
  rcases lowered with same | lower
  · exact .inl (by rw [same])
  · rw [← lower]
    by_cases short : (config.idSpace.rules (input.listDrafts config)).length ≤ other.ceiling config
    · rw [List.take_of_length_le short, List.take_of_length_le (Nat.le_succ_of_le short)]
      exact .inl rfl
    · refine .inr ?_
      rw [List.dropLast_eq_take, List.length_take, List.take_take]
      congr 1
      omega

end Compilation.IsOf

/-- The ceiling takes the first of the rules that lists would yield without it, behind the user's own
rules, on which lists have no influence. -/
theorem compile_cutsOff (input : CompileInput) {config : CompilerConfig} {ranges : List IdRange}
    (accepted : IdSpace.ofRanges ranges = .ok config.idSpace) (valid : config.validate = .ok ())
    {ample : Nat} (roomy : input.sourcedFilters.length ≤ ample) :
    ∃ compilation whole, compile input config = .ok compilation ∧
      compile input.withoutBudget (config.withCeiling ample) = .ok whole ∧
      whole.rules.filter (!·.isOwn) =
        sortById (input.withoutBudget.emittedListRules (config.withCeiling ample)) ∧
      compilation.CutsOff input config
        (input.withoutBudget.emittedListRules (config.withCeiling ample)) := by
  have bands := IdSpace.valid_of_ofRanges accepted
  obtain ⟨compilation, compiled⟩ := exists_compile input valid
  obtain ⟨whole, wholeCompiled⟩ :=
    @exists_compile input.withoutBudget (config.withCeiling ample) valid
  have h := compile_inv compiled
  refine ⟨compilation, whole, compiled, wholeCompiled, (compile_inv wholeCompiled).filter_rules bands _,
    ?_⟩
  obtain ⟨-, rest⟩ := input.rules_listEmission config
  have first : input.emittedListRules config =
      (config.idSpace.rules (input.listDrafts config)).take (input.ceiling config) :=
    input.emittedListRules_eq config
  rw [input.emittedListRules_withoutBudget config roomy]
  constructor
  case own =>
    intro other settings otherCompiled whitelist blacklist customRules space types otherRun
    have hOther := compile_inv otherRun
    rw [h.ownRules_eq bands, hOther.ownRules_eq (space ▸ bands), space,
      CompileInput.ownDrafts_congr whitelist blacklist customRules types]
  case unlimited =>
    intro none
    rw [h.listCeiling_eq, none, listCeiling]
  case limited =>
    intro budget some
    rw [h.listCeiling_eq, some, listCeiling]
  case listed => exact h.filter_rules bands _
  case first => rw [h.ceiling, first]
  case dropped =>
    rw [h.capacityDropped, first, List.length_take]
    omega
  case full =>
    intro some
    rw [h.capacityDropped] at some
    rw [h.ceiling]
    exact input.length_emittedListRules some
  case total =>
    intro budget limited beyond
    exact h.rules_of_budget_lt limited beyond
  case displaced =>
    intro other otherCompiled lists enabled budget otherRun oneMore
    exact h.emittedListRules_displaced (compile_inv otherRun) lists enabled budget oneMore

/-- An input whose budget is almost used up by the user's own rules. -/
def tightInput : CompileInput := { crowdedInput with ruleBudget := some 4 }

/-- The budget leaves lists less room than the settings and the bands do. -/
theorem compile_cutsOff_tight :
    IdSpace.ofRanges narrowConfig.idSpace.ranges = .ok narrowConfig.idSpace ∧
      narrowConfig.validate = .ok () ∧ tightInput.sourcedFilters.length ≤ 4 ∧
      ∃ compilation whole, compile tightInput narrowConfig = .ok compilation ∧
        compile tightInput.withoutBudget (narrowConfig.withCeiling 4) = .ok whole ∧
        whole.rules.filter (!·.isOwn) =
          sortById (tightInput.withoutBudget.emittedListRules (narrowConfig.withCeiling 4)) ∧
        compilation.CutsOff tightInput narrowConfig
          (tightInput.withoutBudget.emittedListRules (narrowConfig.withCeiling 4)) := by
  have accepted : IdSpace.ofRanges narrowConfig.idSpace.ranges = .ok narrowConfig.idSpace := rfl
  have valid : narrowConfig.validate = .ok () := rfl
  have roomy : tightInput.sourcedFilters.length ≤ 4 := by decide +kernel
  exact ⟨accepted, valid, roomy, compile_cutsOff tightInput accepted valid roomy⟩

end ContentFilter
