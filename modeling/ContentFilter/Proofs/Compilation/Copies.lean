import ContentFilter.Proofs.Compilation.ByCategory
import ContentFilter.Proofs.Compilation.Precedence
import ContentFilter.Proofs.Compilation.Requests

/-!
# Copies of a filter

Of the copies of a filter in several lists the first one is kept, whatever its category, and only then
are ids handed out.  So a filter is represented if the band of its first copy has room; otherwise it may
be lost, even where ids of its own category are left.
-/

namespace ContentFilter

/-- Two rules that do the same, under any ids and in any categories. -/
def CompiledRule.ActsLike (rule other : CompiledRule) : Prop :=
  rule.priority = other.priority ∧ rule.action = other.action ∧
    rule.matchPattern = other.matchPattern ∧ rule.resourceTypes = other.resourceTypes ∧
    rule.includes = other.includes ∧ rule.excludes = other.excludes ∧ rule.party = other.party ∧
    rule.caseSensitive = other.caseSensitive

instance (rule other : CompiledRule) : Decidable (rule.ActsLike other) :=
  inferInstanceAs (Decidable (_ ∧ _))

/-- A compilation with a rule that does what the given one does. -/
def Compilation.Represents (compilation : Compilation) (rule : CompiledRule) : Prop :=
  ∃ other ∈ compilation.rules, other.ActsLike rule

/-! ## Drafts of copies -/

/-- The drafts of two filters of one identity differ in their categories at most. -/
theorem SourcedFilter.draft?_congr (config : CompilerConfig) {first second : SourcedFilter}
    (same : first.filter.key = second.filter.key) :
    first.draft? config =
      (second.draft? config).map fun draft => { draft with category := first.category } := by
  obtain ⟨index, category, a⟩ := first
  obtain ⟨otherIndex, otherCategory, b⟩ := second
  cases a with
  | elementHide | scriptlet =>
    cases b with
    | network twin => cases same
    | _ => rfl
  | network filter =>
    cases b with
    | elementHide | scriptlet => cases same
    | network twin =>
      simp only [Filter.key, FilterKey.network.injEq, NetworkFilter.key, NetworkKey.mk.injEq] at same
      obtain ⟨pattern, isException, scope, types, party, important, matchCase⟩ := same
      simp only [draft?, RuleDraft.ofFilter?, PriorityTier.ofListFilter, pattern, isException, scope,
        types, party, important, matchCase]
      split
      · rfl
      · rfl

/-! ## A filter on its own -/

/-- A list of one filter. -/
def CachedList.single (category : Category) (filter : Filter) : CachedList :=
  ⟨.new "" "" category, [filter], false, 0⟩

/-- An input of one list of a category, with one filter. -/
def CompileInput.ofFilter (category : Category) (filter : Filter) : CompileInput where
  lists := [.single category filter]
  customRules := []
  whitelist := []
  blacklist := []
  enabledCategories := [category]
  ruleBudget := none

namespace CompileInput

variable {category : Category} {filter : Filter}

theorem sourcedFilters_ofFilter (listed : category.isListCategory) :
    (ofFilter category filter).sourcedFilters = [⟨0, category, filter⟩] := by
  have included : CachedList.isIncluded [category] (.single category filter) = true := by
    simp [CachedList.isIncluded, CachedList.single, FilterList.new, listed]
  have lists : (ofFilter category filter).includedLists = [(.single category filter, 0)] :=
    List.filter_cons_of_pos included
  rw [sourcedFilters, lists]
  rfl

theorem listDrafts_ofFilter (config : CompilerConfig) (listed : category.isListCategory)
    (plain : filter.badfilter? = none) :
    (ofFilter category filter).listDrafts config =
      ((⟨0, category, filter⟩ : SourcedFilter).draft? config).toList := by
  have kept : (Optimizer.optimize [⟨0, category, filter⟩]).kept = [⟨0, category, filter⟩] := by
    have none : Optimizer.withdrawnKeys [⟨0, category, filter⟩] = [] :=
      Optimizer.withdrawnKeys_eq_nil (by simpa using plain)
    have stands : Optimizer.isWithdrawn [] filter = false := by cases filter <;> rfl
    simp [Optimizer.optimize, none, plain, stands, Optimizer.firstOccurrences]
  rw [listDrafts, sourcedFilters_ofFilter listed, kept]
  cases drafted : (⟨0, category, filter⟩ : SourcedFilter).draft? config with
  | none => rw [List.filterMap_cons_none drafted]; rfl
  | some draft => rw [List.filterMap_cons_some drafted]; rfl

end CompileInput

/-- A filter with a draft yields one rule on its own, if rules of lists are allowed at all. -/
theorem exists_compile_ofFilter {config : CompilerConfig} {ranges : List IdRange}
    (accepted : IdSpace.ofRanges ranges = .ok config.idSpace) (valid : config.validate = .ok ())
    {sourced : SourcedFilter} (listed : sourced.category.isListCategory)
    (plain : sourced.filter.badfilter? = none) {draft : RuleDraft}
    (drafted : sourced.draft? config = some draft) (allowed : 0 < config.maxListRules) :
    ∃ alone id, compile (.ofFilter sourced.category sourced.filter) config = .ok alone ∧
      alone.rules = [draft.toRule id] := by
  have bands := IdSpace.valid_of_ofRanges accepted
  obtain ⟨range, declared⟩ :=
    Option.isSome_iff_exists.1 (CompilerConfig.range?_isSome valid draft.category)
  have nonempty := (bands.bands range (List.mem_of_find?_eq_some declared)).2
  have given : config.idSpace.idAt? draft.category 0 = some range.start :=
    IdSpace.idAt?_eq_some_iff.2 ⟨range, declared, rfl, nonempty⟩
  have asks : (CompileInput.ofFilter sourced.category sourced.filter).listDrafts config = [draft] := by
    have same : (⟨0, sourced.category, sourced.filter⟩ : SourcedFilter).draft? config =
        some draft := drafted
    rw [CompileInput.listDrafts_ofFilter config listed plain, same]
    rfl
  have served : config.idSpace.rules [draft] = [draft.toRule range.start] := by
    have first : config.idSpace.rule? (draft, 0) = some (draft.toRule range.start) := by
      rw [IdSpace.rule?, given, Option.map_some]
    exact List.filterMap_cons_some first
  obtain ⟨alone, compiled⟩ := exists_compile (.ofFilter sourced.category sourced.filter) valid
  refine ⟨alone, range.start, compiled, ?_⟩
  have emitted := ((CompileInput.ofFilter sourced.category sourced.filter).rules_listEmission
    config).1
  have ceiling : (CompileInput.ofFilter sourced.category sourced.filter).ceiling config =
      config.maxListRules := rfl
  have whole : [draft.toRule range.start].take config.maxListRules = [draft.toRule range.start] :=
    List.take_of_length_le allowed
  rw [asks, served, ceiling, whole] at emitted
  have permuted := (compile_inv compiled).perm_rules
  rw [emitted] at permuted
  exact List.perm_singleton.1 permuted

/-! ## Bands with room -/

namespace Compilation.IsOf

variable {input : CompileInput} {config : CompilerConfig} {compilation : Compilation}

/-- The rules of a category, if nothing lay above the ceiling. -/
theorem countP_of_below (h : compilation.IsOf input config)
    (bands : IdSpace.Valid config.idSpace.ranges)
    (below : compilation.diagnostics.capacityDropped = 0) (category : Category) :
    compilation.rules.countP (·.category == category) =
      min (input.draftsOf config category).length (config.idSpace.capacity category) := by
  rw [List.countP_eq_length_filter, h.filter_of_below bands below, CompileInput.length_rulesOf]

/-- If a draft of a list lay below the ceiling, there is room for rules of lists. -/
theorem maxListRules_pos (h : compilation.IsOf input config)
    (below : compilation.diagnostics.capacityDropped = 0) {draft : RuleDraft}
    (asks : draft ∈ input.listDrafts config) : 0 < config.maxListRules := by
  have complete : config.idSpace.Complete := CompilerConfig.range?_isSome h.valid
  have count := (input.tallied_listEmission config complete).2
  rw [← h.capacityDropped, below, Nat.zero_add] at count
  have some := List.length_pos_of_mem asks
  by_contra none
  have closed : input.ceiling config = 0 := by
    have most : input.ceiling config ≤ config.maxListRules := by
      unfold CompileInput.ceiling listCeiling
      split
      · exact Nat.min_le_left _ _
      · exact Nat.le_refl _
    omega
  rw [CompileInput.listRequests, closed, IdSpace.reached_zero, List.length_nil] at count
  omega

/-- A band is reported if it is too short for the drafts of its category. -/
theorem exists_exhaustion (h : compilation.IsOf input config)
    (below : compilation.diagnostics.capacityDropped = 0) {category : Category}
    (short : config.idSpace.capacity category < (input.draftsOf config category).length) :
    ∃ exhaustion ∈ compilation.diagnostics.rangeExhausted, exhaustion.category = category := by
  have complete : config.idSpace.Complete := CompilerConfig.range?_isSome h.valid
  have noted := (input.tallied_listEmission config complete).1.exhausted category
  rw [h.capacityDropped] at below
  rw [CompileInput.draftsOf, ← List.countP_eq_length_filter] at short
  rw [input.requests_of_below config complete below, IdSpace.exhaustion?, List.countP_reverse,
    if_neg (Nat.not_le_of_lt short)] at noted
  rw [h.rangeExhausted]
  exact ⟨_, List.mem_filterMap.2 ⟨category, Category.mem_all category, noted⟩, rfl⟩

/-- What is represented is what a draft within a band does. -/
theorem represents_iff (h : compilation.IsOf input config)
    (bands : IdSpace.Valid config.idSpace.ranges)
    (below : compilation.diagnostics.capacityDropped = 0) (rule : CompiledRule) :
    compilation.Represents rule ↔ ∃ category,
      ∃ draft ∈ (input.draftsOf config category).take (config.idSpace.capacity category),
        (draft.toRule rule.id).ActsLike rule := by
  have within : ∀ category, (∃ other ∈ input.rulesOf config category, other.ActsLike rule) ↔
      ∃ draft ∈ (input.draftsOf config category).take (config.idSpace.capacity category),
        (draft.toRule rule.id).ActsLike rule :=
    fun category => CompileInput.exists_mem_rulesOf_iff fun draft id => Iff.rfl
  simp only [← within, ← h.filter_of_below bands below]
  constructor
  · rintro ⟨other, member, alike⟩
    exact ⟨other.category, other, List.mem_filter.2 ⟨member, beq_self_eq_true _⟩, alike⟩
  · rintro ⟨category, other, member, alike⟩
    exact ⟨other, (List.mem_filter.1 member).1, alike⟩

end Compilation.IsOf

/-- What becomes of a filter that does what `rule` does on its own and of which `first` is the first
copy. -/
structure Compilation.Follows (compilation : Compilation) (input : CompileInput)
    (config : CompilerConfig) (sourced first : SourcedFilter) (rule : CompiledRule) : Prop where
  kept : first ∈ (Optimizer.optimize input.sourcedFilters).kept
  copy : first.filter.key = sourced.filter.key
  /-- The filter is represented if some draft that does the same lies within its band. -/
  represents_iff : compilation.Represents rule ↔ ∃ category,
    ∃ draft ∈ (input.draftsOf config category).take (config.idSpace.capacity category),
      (draft.toRule rule.id).ActsLike rule
  /-- So it is if the band of the first copy has room. -/
  represents_of_room : compilation.rules.countP (·.category == first.category) <
    config.idSpace.capacity first.category → compilation.Represents rule
  /-- It is lost only to the band of another category, which is reported as used up. -/
  lost : ¬ compilation.Represents rule → first.category ≠ sourced.category ∧
    ∃ exhaustion ∈ compilation.diagnostics.rangeExhausted, exhaustion.category = first.category

/-- A filter of a list that stands and whose pattern is valid, in a band with room, below a ceiling that
is not reached: it does on its own what one rule does, and this rule is represented unless its first
copy went without an id. -/
theorem compile_follows {input : CompileInput} {config : CompilerConfig} {ranges : List IdRange}
    (accepted : IdSpace.ofRanges ranges = .ok config.idSpace) {compilation : Compilation}
    (compiled : compile input config = .ok compilation)
    (below : compilation.diagnostics.capacityDropped = 0) {sourced : SourcedFilter}
    (member : sourced ∈ input.sourcedFilters) {filter : NetworkFilter}
    (kind : sourced.filter = .network filter) (standing : filter ∈ input.standingFilters)
    (isAccepted : filter.isAccepted)
    (room : compilation.rules.countP (·.category == sourced.category) <
      config.idSpace.capacity sourced.category) :
    ∃ alone rule first, compile (.ofFilter sourced.category sourced.filter) config = .ok alone ∧
      alone.rules = [rule] ∧ compilation.Follows input config sourced first rule := by
  have h := compile_inv compiled
  have bands := IdSpace.valid_of_ofRanges accepted
  -- the copy that makes the filter stand need not be this one, nor be kept
  obtain ⟨twin, twinMember, twinKind, plain, stands⟩ :=
    CompileInput.mem_standingFilters.1 standing
  obtain ⟨first, kept, copy⟩ := Optimizer.exists_mem_kept twinMember plain stands
  rw [twinKind, ← kind] at copy plain
  obtain ⟨draft, drafted⟩ : ∃ draft, sourced.draft? config = some draft := by
    rcases SourcedFilter.draft?_cases config kind with ⟨refused, -⟩ | ⟨draft, -, drafted, -⟩
    · rw [isAccepted] at refused
      cases refused
    · exact ⟨draft, drafted⟩
  have firstDrafted : first.draft? config = some { draft with category := first.category } := by
    rw [SourcedFilter.draft?_congr config copy, drafted, Option.map_some]
  have asks : { draft with category := first.category } ∈ input.listDrafts config :=
    List.mem_filterMap.2 ⟨first, kept, firstDrafted⟩
  have among : { draft with category := first.category } ∈
      input.draftsOf config first.category :=
    List.mem_filter.2 ⟨List.mem_append_right _ asks, beq_self_eq_true first.category⟩
  obtain ⟨alone, id, compiledAlone, rules⟩ := exists_compile_ofFilter accepted h.valid
    (CompileInput.isListCategory_of_mem_sourcedFilters member) (Option.isNone_iff_eq_none.1 plain)
    drafted (h.maxListRules_pos below asks)
  have represents_iff := h.represents_iff bands below (draft.toRule id)
  have served : (input.draftsOf config first.category).length ≤
      config.idSpace.capacity first.category → compilation.Represents (draft.toRule id) := by
    intro enough
    rw [represents_iff]
    refine ⟨first.category, { draft with category := first.category }, ?_, ?_⟩
    · rw [List.take_of_length_le enough]
      exact among
    · exact ⟨rfl, rfl, rfl, rfl, rfl, rfl, rfl, rfl⟩
  refine ⟨alone, draft.toRule id, first, compiledAlone, rules, kept, copy, represents_iff, ?_, ?_⟩
  · intro left
    rw [h.countP_of_below bands below] at left
    exact served (by omega)
  · intro lost
    have short := Nat.lt_of_not_le (mt served lost)
    refine ⟨?_, h.exists_exhaustion below short⟩
    intro same
    rw [h.countP_of_below bands below, ← same] at room
    omega

/-- A list for trackers with a copy of a filter that a list for advertisements has as well. -/
def copiedInput : CompileInput where
  lists := [.ofText (.new "base" "https://lists.test/base" .ads) "-banner-\n-popup-" 1,
    .ofText (.new "privacy" "https://lists.test/privacy" .trackers) "-popup-" 1]
  customRules := []
  whitelist := []
  blacklist := []
  enabledCategories := [.ads, .trackers]
  ruleBudget := none

/-- The filter of both lists. -/
def copiedFilter : NetworkFilter where
  pattern := "-popup-"
  isException := false
  scope := ⟨[], []⟩
  resourceTypes := none
  party := none
  important := false
  badfilter := false
  matchCase := false
  sourceLine := "-popup-"

/-- With a single id for advertisements, nothing lies above the ceiling, and the copy is a filter that
stands, in a band with room. -/
theorem copied_stands :
    (copiedInput.listEmission (cramped .ads)).capacityDropped = 0 ∧
      ⟨1, .trackers, .network copiedFilter⟩ ∈ copiedInput.sourcedFilters ∧
      copiedFilter ∈ copiedInput.standingFilters ∧ copiedFilter.isAccepted ∧
      (copiedInput.listEmission (cramped .ads)).emission.rules.countP (·.category == .trackers) <
        (cramped .ads).idSpace.capacity .trackers := by
  decide +kernel

theorem compile_follows_copied :
    IdSpace.ofRanges (cramped .ads).idSpace.ranges = .ok (cramped .ads).idSpace ∧
      ∃ compilation alone rule first, compile copiedInput (cramped .ads) = .ok compilation ∧
        compilation.diagnostics.capacityDropped = 0 ∧
        ⟨1, .trackers, .network copiedFilter⟩ ∈ copiedInput.sourcedFilters ∧
        copiedFilter ∈ copiedInput.standingFilters ∧ copiedFilter.isAccepted ∧
        compilation.rules.countP (·.category == .trackers) <
          (cramped .ads).idSpace.capacity .trackers ∧
        compile (.ofFilter .trackers (.network copiedFilter)) (cramped .ads) = .ok alone ∧
        alone.rules = [rule] ∧
        compilation.Follows copiedInput (cramped .ads) ⟨1, .trackers, .network copiedFilter⟩ first
          rule := by
  have accepted : IdSpace.ofRanges (cramped .ads).idSpace.ranges = .ok (cramped .ads).idSpace := rfl
  have valid : (cramped .ads).validate = .ok () := rfl
  obtain ⟨compilation, compiled⟩ := exists_compile copiedInput valid
  have h := compile_inv compiled
  obtain ⟨below, member, standing, isAccepted, room⟩ := copied_stands
  rw [← h.capacityDropped] at below
  rw [← h.perm_rules.countP_eq] at room
  obtain ⟨alone, rule, first, compiledAlone, rules, follows⟩ :=
    compile_follows accepted compiled below member rfl standing isAccepted room
  exact ⟨accepted, compilation, alone, rule, first, compiled, below, member, standing, isAccepted,
    room, compiledAlone, rules, follows⟩

/-- The first copy goes without an id, and the other is lost with it, though no id for trackers is
used. -/
theorem not_represents_copied :
    ∃ compilation alone rule, compile copiedInput (cramped .ads) = .ok compilation ∧
      compilation.diagnostics.capacityDropped = 0 ∧
      ⟨1, .trackers, .network copiedFilter⟩ ∈ copiedInput.sourcedFilters ∧
      copiedFilter ∈ copiedInput.standingFilters ∧ copiedFilter.isAccepted ∧
      compilation.rules.countP (·.category == .trackers) <
        (cramped .ads).idSpace.capacity .trackers ∧
      compile (.ofFilter .trackers (.network copiedFilter)) (cramped .ads) = .ok alone ∧
      alone.rules = [rule] ∧ ¬ compilation.Represents rule := by
  have accepted : IdSpace.ofRanges (cramped .ads).idSpace.ranges = .ok (cramped .ads).idSpace := rfl
  have valid : (cramped .ads).validate = .ok () := rfl
  obtain ⟨compilation, compiled⟩ := exists_compile copiedInput valid
  have h := compile_inv compiled
  obtain ⟨below, member, standing, isAccepted, room⟩ := copied_stands
  rw [← h.capacityDropped] at below
  rw [← h.perm_rules.countP_eq] at room
  have unlike : ((⟨1, .trackers, .network copiedFilter⟩ : SourcedFilter).draft? (cramped .ads)).any
      fun draft => (copiedInput.listEmission (cramped .ads)).emission.rules.all
        fun other => ¬ other.ActsLike (draft.toRule 0) := by decide +kernel
  obtain ⟨draft, drafted, others⟩ := (Option.any_eq_true _ _).1 unlike
  obtain ⟨alone, id, compiledAlone, rules⟩ :=
    exists_compile_ofFilter accepted valid rfl rfl drafted (by decide)
  refine ⟨compilation, alone, draft.toRule id, compiled, below, member, standing, isAccepted, room,
    compiledAlone, rules, ?_⟩
  rintro ⟨other, among, alike⟩
  exact of_decide_eq_true (List.all_eq_true.1 others other (h.mem_rules.1 among)) alike

end ContentFilter
