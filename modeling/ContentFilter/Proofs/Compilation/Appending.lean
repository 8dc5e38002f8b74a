import ContentFilter.Proofs.Compilation.Ceiling
import ContentFilter.Proofs.Compilation.Numbering
import ContentFilter.Proofs.Sync.Rediff

/-!
# Filters that are appended

Filters behind all others that take part are the last to be read, to be told apart and to get ids.  So
the rules that were compiled without them stay as they are, and a backend that has these gets the new
ones only.
-/

namespace ContentFilter

/-! ## Drafts behind others -/

/-- Drafts of one category add rules of this category. -/
theorem ListEmission.exists_added (config : CompilerConfig) (ceiling : Nat) (state : ListEmission)
    {filters : List SourcedFilter} {category : Category}
    (same : ∀ sourced ∈ filters, sourced.category = category) :
    ∃ added, (filters.foldl (pushFilter config ceiling) state).emission.rules =
        added ++ state.emission.rules ∧ ∀ rule ∈ added, rule.category = category := by
  refine foldl_pushFilter_induct (motive := fun emission => ∃ added,
    emission.rules = added ++ state.emission.rules ∧ ∀ rule ∈ added, rule.category = category) ?_ ?_ ?_
  · refine ⟨[], rfl, fun rule impossible => ?_⟩
    cases impossible
  · intro emission grown
    exact grown
  · rintro emission sourced draft member drafted ⟨added, split, kinds⟩
    rcases Emission.push_cases emission draft with
      ⟨id, _, _, pushed⟩ | ⟨_, _, _, pushed⟩ | ⟨_, _, pushed⟩
    · rw [pushed]
      refine ⟨draft.toRule id :: added, congrArg (draft.toRule id :: ·) split, ?_⟩
      intro rule among
      rcases List.mem_cons.1 among with rfl | before
      · exact (SourcedFilter.category_of_draft? drafted).trans (same sourced member)
      · exact kinds rule before
    · rw [pushed]
      exact ⟨added, split, kinds⟩
    · rw [pushed]
      exact ⟨added, split, kinds⟩

/-- Of the rules of a category, the newer have the higher ids. -/
theorem Emission.Numbered.id_lt_of_append {space : IdSpace} {emission : Emission}
    (numbered : emission.Numbered space) {newer older : List CompiledRule}
    (split : emission.rules = newer ++ older) {new old : CompiledRule} (first : new ∈ newer)
    (behind : old ∈ older) (same : old.category = new.category) : old.id < new.id := by
  obtain ⟨range, declared, -⟩ := numbered.inBand new (split ▸ List.mem_append_left older first)
  have falling : ((emission.rules.filter (·.category == new.category)).map (·.id)).Pairwise
      fun a b => b < a := by
    rw [numbered.ids _ range declared, List.pairwise_reverse]
    exact List.pairwise_lt_range'
  rw [List.pairwise_map, split, List.filter_append, List.pairwise_append] at falling
  refine falling.2.2 new ?_ old ?_
  · exact List.mem_filter.2 ⟨first, beq_self_eq_true _⟩
  · exact List.mem_filter.2 ⟨behind, beq_iff_eq.2 same⟩

/-! ## The last list that takes part -/

/-- The list with more filters behind its own. -/
def CachedList.append (cached : CachedList) (added : List Filter) : CachedList :=
  { cached with filters := cached.filters ++ added }

namespace CompileInput

variable {input : CompileInput} {before after : List CachedList} {cached : CachedList}
  {added : List Filter}

/-- The input with other lists. -/
def withLists (input : CompileInput) (lists : List CachedList) : CompileInput := { input with lists }

/-- The filters of the last list that takes part follow those of the lists in front of it. -/
theorem sourcedFilters_withLists (included : cached.isIncluded input.enabledCategories)
    (last : ∀ other ∈ after, other.isIncluded input.enabledCategories = false) :
    (input.withLists (before ++ cached :: after)).sourcedFilters =
      (input.withLists before).sourcedFilters ++
        cached.filters.map (⟨before.length, cached.list.category, ·⟩) := by
  have excluded : (after.zipIdx (before.length + 1)).filter
      (·.1.isIncluded input.enabledCategories) = [] := by
    rw [List.filter_eq_nil_iff]
    intro entry member
    rw [last entry.1 (List.fst_mem_of_mem_zipIdx member)]
    exact Bool.false_ne_true
  have partaking : (input.withLists (before ++ cached :: after)).includedLists =
      (input.withLists before).includedLists ++ [(cached, before.length)] := by
    unfold includedLists withLists
    dsimp only
    rw [List.zipIdx_append, List.zipIdx_cons, List.filter_append, List.filter_cons, if_pos included,
      Nat.zero_add, excluded]
  rw [sourcedFilters, partaking, List.flatMap_append, List.flatMap_singleton]
  rfl

/-- Filters behind those of the last list that takes part are the last of all. -/
theorem sourcedFilters_append (lists : input.lists = before ++ cached :: after)
    (included : cached.isIncluded input.enabledCategories)
    (last : ∀ other ∈ after, other.isIncluded input.enabledCategories = false) :
    (input.withLists (before ++ cached.append added :: after)).sourcedFilters =
      input.sourcedFilters ++ added.map (⟨before.length, cached.list.category, ·⟩) := by
  have whole : input.withLists (before ++ cached :: after) = input := by
    rw [← lists]
    rfl
  have longer := @sourcedFilters_withLists input before after (cached.append added) included last
  rw [CachedList.append, List.map_append, ← List.append_assoc,
    ← sourcedFilters_withLists included last, whole] at longer
  exact longer

/-- Filters that are appended and withdraw nothing add rules of their category in front of all that
were emitted without them. -/
theorem exists_listEmission_append (config : CompilerConfig)
    (lists : input.lists = before ++ cached :: after)
    (included : cached.isIncluded input.enabledCategories)
    (last : ∀ other ∈ after, other.isIncluded input.enabledCategories = false)
    (plain : ∀ filter ∈ added, filter.badfilter? = none) :
    ∃ newer, ((input.withLists (before ++ cached.append added :: after)).listEmission
        config).emission.rules = newer ++ (input.listEmission config).emission.rules ∧
      ∀ rule ∈ newer, rule.category = cached.list.category := by
  have harmless : ∀ sourced ∈ added.map (SourcedFilter.mk before.length cached.list.category),
      sourced.filter.badfilter? = none := by simpa using plain
  obtain ⟨rest, kept, among⟩ := Optimizer.exists_kept_append input.sourcedFilters harmless
  have same : ∀ sourced ∈ rest, sourced.category = cached.list.category := by
    intro sourced member
    obtain ⟨filter, -, rfl⟩ := List.mem_map.1 (among.subset member)
    rfl
  rw [← sourcedFilters_append lists included last] at kept
  obtain ⟨newer, split, kinds⟩ := ListEmission.exists_added config (input.ceiling config)
    (input.listEmission config) same
  refine ⟨newer, ?_, kinds⟩
  -- neither the user's entries nor the ceiling depend on the lists
  rw [← split, listEmission, kept, List.foldl_append]
  rfl

end CompileInput

/-! ## Whole compilations -/

/-- A compilation that has all rules of an older one, and else only rules of one category with ids above
those of the older rules of this category.  A backend with the older rules gets just the others. -/
structure Compilation.Extends (new old : Compilation) (category : Category) : Prop where
  kept : ∀ rule ∈ old.rules, rule ∈ new.rules
  added : ∀ rule ∈ new.rules, rule ∉ old.rules → rule.category = category ∧
    ∀ other ∈ old.rules, other.category = category → other.id < rule.id
  plan : SyncPlan.diff new.rules old.rules =
    { removals := []
      additions := new.rules.filter (· ∉ old.rules)
      unchanged := old.rules.length }

/-- Filters that withdraw nothing change no compiled rule when they are appended to the last list that
takes part. -/
theorem compile_extends {input : CompileInput} {config : CompilerConfig} {ranges : List IdRange}
    (accepted : IdSpace.ofRanges ranges = .ok config.idSpace) (valid : config.validate = .ok ())
    {before after : List CachedList} {cached : CachedList}
    (lists : input.lists = before ++ cached :: after)
    (included : cached.isIncluded input.enabledCategories)
    (last : ∀ other ∈ after, other.isIncluded input.enabledCategories = false)
    {added : List Filter} (plain : ∀ filter ∈ added, filter.badfilter? = none) :
    ∃ old new, compile input config = .ok old ∧
      compile (input.withLists (before ++ cached.append added :: after)) config = .ok new ∧
      new.Extends old cached.list.category := by
  have bands := IdSpace.valid_of_ofRanges accepted
  obtain ⟨old, compiled⟩ := exists_compile input valid
  obtain ⟨new, recompiled⟩ :=
    exists_compile (input.withLists (before ++ cached.append added :: after)) valid
  have hOld := compile_inv compiled
  have hNew := compile_inv recompiled
  obtain ⟨newer, split, kinds⟩ :=
    CompileInput.exists_listEmission_append config lists included last plain
  have mem_new (rule : CompiledRule) : rule ∈ new.rules ↔ rule ∈ newer ∨ rule ∈ old.rules := by
    rw [hNew.mem_rules, split, List.mem_append, hOld.mem_rules]
  have kept : ∀ rule ∈ old.rules, rule ∈ new.rules := fun rule member => (mem_new rule).2 (.inr member)
  refine ⟨old, new, compiled, recompiled, ?_⟩
  constructor
  case kept => exact kept
  case added =>
    intro rule member new
    have first := ((mem_new rule).1 member).resolve_right new
    refine ⟨kinds rule first, fun other behind same => ?_⟩
    exact (Compilation.IsOf.numbered bands).id_lt_of_append split first (hOld.mem_rules.1 behind)
      (same.trans (kinds rule first).symm)
  case plan =>
    have ordered := hNew.pairwise_rules bands
    let table : RuleTable := ⟨old.rules, hOld.pairwise_rules bands⟩
    have planned : SyncPlan.diff new.rules table.rules = _ :=
      SyncPlan.diff_of_subset (RuleTable.nodup_ids_of_pairwise ordered) kept
    rw [sortById_eq_self (ordered.filter _)] at planned
    exact planned

/-- A list that takes part. -/
def baseList : CachedList := .ofText (.new "base" "https://lists.test/base" .ads) "||a.io^" 1

/-- A list that is switched off. -/
def idleList : CachedList :=
  .ofText { FilterList.new "idle" "https://lists.test/idle" .ads with enabled := false } "||b.io^" 1

/-- An input whose last list does not take part. -/
def idleInput : CompileInput := { crowdedInput with lists := [baseList, idleList] }

/-- Of two filters that are appended, one repeats the filter in front of it. -/
theorem compile_extends_idle :
    IdSpace.ofRanges narrowConfig.idSpace.ranges = .ok narrowConfig.idSpace ∧
      narrowConfig.validate = .ok () ∧ idleInput.lists = [] ++ baseList :: [idleList] ∧
      baseList.isIncluded idleInput.enabledCategories ∧
      (∀ other ∈ [idleList], other.isIncluded idleInput.enabledCategories = false) ∧
      (∀ filter ∈ (ParsedList.ofText .adblock "||a.io^\n||b.io^").filters,
        filter.badfilter? = none) ∧
      ∃ old new, compile idleInput narrowConfig = .ok old ∧
        compile (idleInput.withLists ([] ++
          baseList.append (ParsedList.ofText .adblock "||a.io^\n||b.io^").filters :: [idleList]))
          narrowConfig = .ok new ∧ new.Extends old .ads := by
  have accepted : IdSpace.ofRanges narrowConfig.idSpace.ranges = .ok narrowConfig.idSpace := rfl
  have valid : narrowConfig.validate = .ok () := rfl
  have lists : idleInput.lists = [] ++ baseList :: [idleList] := rfl
  have included : baseList.isIncluded idleInput.enabledCategories := by decide +kernel
  have last : ∀ other ∈ [idleList], other.isIncluded idleInput.enabledCategories = false := by
    decide +kernel
  have plain : ∀ filter ∈ (ParsedList.ofText .adblock "||a.io^\n||b.io^").filters,
      filter.badfilter? = none := by decide +kernel
  exact ⟨accepted, valid, lists, included, last, plain,
    compile_extends accepted valid lists included last plain⟩

end ContentFilter
