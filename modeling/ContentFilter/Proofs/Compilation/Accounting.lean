import ContentFilter.CosmeticIndex.Lemmas
import ContentFilter.Proofs.Compilation.Requests
import Mathlib.Algebra.BigOperators.Group.List.Basic
import Mathlib.Algebra.GroupWithZero.Nat

/-!
# Every rule is accounted for

The diagnostics of a compilation balance: whatever was put into it has become a rule, or is counted by
just one of the reasons why it has not.  The counts by category and by list add up to the rules, and a
band is reported as used up if and only if a draft asked for an id in vain.
-/

namespace ContentFilter

/-! ## Sums over groups -/

/-- Groups by different keys add up to the whole. -/
theorem sum_groups {α κ : Type} [DecidableEq κ] (key : α → κ) (weight : α → Nat) {keys : List κ}
    (distinct : keys.Nodup) {items : List α} (covered : ∀ item ∈ items, key item ∈ keys) :
    (keys.map fun k => ((items.filter (key · == k)).map weight).sum).sum =
      (items.map weight).sum := by
  induction items with
  | nil => simp
  | cons head rest ih =>
    have tail := ih fun item later => covered item (List.mem_cons_of_mem _ later)
    have group : (fun k => (((head :: rest).filter (key · == k)).map weight).sum) = fun k =>
        (if key head = k then weight head else 0) +
          ((rest.filter (key · == k)).map weight).sum := by
      funext k
      by_cases here : key head = k
      · rw [List.filter_cons_of_pos (by simpa using here), if_pos here, List.map_cons,
          List.sum_cons]
      · rw [List.filter_cons_of_neg (by simpa using here), if_neg here, Nat.zero_add]
    have once : (keys.map fun k => if key head = k then weight head else 0).sum = weight head := by
      rw [List.sum_map_eq_nsmul_single (key head) _ fun k other _ => if_neg (Ne.symm other),
        if_pos rfl, List.count_eq_one_of_mem distinct (covered head List.mem_cons_self), one_nsmul]
    rw [group, List.sum_map_add, once, tail, List.map_cons, List.sum_cons]

/-- The sizes of groups by different keys add up to that of the whole. -/
theorem sum_countP_groups {α κ : Type} [DecidableEq κ] (key : α → κ) {keys : List κ}
    (distinct : keys.Nodup) {items : List α} (covered : ∀ item ∈ items, key item ∈ keys) :
    (keys.map fun k => items.countP (key · == k)).sum = items.length := by
  have groups := sum_groups key (fun _ => 1) distinct covered
  simp only [List.map_const', List.sum_replicate_nat, Nat.mul_one] at groups
  simp only [List.countP_eq_length_filter]
  exact groups

/-- What is left out of a sum counts nothing. -/
theorem sum_filterMap {α β : Type} (f : α → Option β) (weight : β → Nat) (items : List α) :
    ((items.filterMap f).map weight).sum =
      (items.map fun item => ((f item).map weight).getD 0).sum := by
  induction items with
  | nil => rfl
  | cons head rest ih =>
    rw [List.map_cons, List.sum_cons, ← ih]
    cases found : f head with
    | none => rw [List.filterMap_cons_none found, Option.map_none, Option.getD_none, Nat.zero_add]
    | some item => rw [List.filterMap_cons_some found, List.map_cons, List.sum_cons]; rfl

theorem Category.nodup_all : Category.all.Nodup := by decide

/-! ## Counts by category -/

/-- The counts by category add up to the rules. -/
theorem sum_ruleIdsByCategory (rules : List CompiledRule) :
    ((ruleIdsByCategory rules).map (·.2.length)).sum = rules.length := by
  have groups := sum_countP_groups (·.category) Category.nodup_all fun rule (_ : rule ∈ rules) =>
    Category.mem_all rule.category
  rw [← groups, ruleIdsByCategory, ← List.filterMap_eq_filter, sum_filterMap, List.map_map]
  congr 2
  funext category
  rw [List.countP_eq_length_filter, Function.comp_apply]
  cases rules.filter (·.category == category) with
  | nil => rfl
  | cons head rest => simp [Option.guard]

/-! ## Bands that are used up -/

namespace IdSpace

variable {space : IdSpace} {drafts : List RuleDraft} {exhaustion : RangeExhaustion}

/-- A category is noted if one of its drafts got no id. -/
theorem exhaustion?_eq_some_iff {category : Category} :
    space.exhaustion? drafts.reverse category = some exhaustion ↔
      0 < (space.unserved drafts).countP (·.category == category) ∧
        exhaustion = ⟨category, space.capacity category,
          (space.unserved drafts).countP (·.category == category)⟩ := by
  have without := countP_unserved space drafts category
  rw [exhaustion?, List.countP_reverse, ← without]
  by_cases enough : drafts.countP (·.category == category) ≤ space.capacity category
  · rw [if_pos enough]
    constructor
    · intro none
      cases none
    · rintro ⟨dropped, -⟩
      omega
  · rw [if_neg enough, Option.some.injEq, eq_comm, and_iff_right (by omega)]

/-- The notes about the categories of which a draft got no id. -/
theorem mem_exhaustions_iff :
    exhaustion ∈ Category.all.filterMap (space.exhaustion? drafts.reverse) ↔
      ∃ category, 0 < (space.unserved drafts).countP (·.category == category) ∧
        exhaustion = ⟨category, space.capacity category,
          (space.unserved drafts).countP (·.category == category)⟩ := by
  rw [List.mem_filterMap]
  constructor
  · rintro ⟨category, -, noted⟩
    exact ⟨category, exhaustion?_eq_some_iff.1 noted⟩
  · rintro ⟨category, noted⟩
    exact ⟨category, Category.mem_all category, exhaustion?_eq_some_iff.2 noted⟩

/-- Every draft without an id is counted by the note about its category. -/
theorem sum_dropped (space : IdSpace) (drafts : List RuleDraft) :
    ((Category.all.filterMap (space.exhaustion? drafts.reverse)).map (·.dropped)).sum =
      (space.unserved drafts).length := by
  have groups := sum_countP_groups (·.category) Category.nodup_all
    fun draft (_ : draft ∈ space.unserved drafts) => Category.mem_all draft.category
  rw [← groups, sum_filterMap]
  congr 2
  funext category
  rw [countP_unserved, exhaustion?, List.countP_reverse]
  split
  · rename_i enough
    exact (Nat.sub_eq_zero_of_le enough).symm
  · rfl

end IdSpace

/-! ## Counts by list -/

namespace CompileInput

/-- The counts by list add up to the rules of lists. -/
theorem sum_countPerList (input : CompileInput) {lists : List Nat}
    (inside : ∀ index ∈ lists, index < input.lists.length) :
    ((input.countPerList lists).map (·.2)).sum = lists.length := by
  have perIndex : (input.lists.zipIdx.map fun entry => lists.count entry.2).sum =
      lists.length := by
    have indices : input.lists.zipIdx.map (·.2) = List.range input.lists.length := by
      rw [List.range_eq_range']
      exact List.zipIdx_map_snd 0 input.lists
    have groups := sum_countP_groups id (List.nodup_range (n := input.lists.length))
      fun index member => List.mem_range.2 (inside index member)
    rw [← indices, List.map_map] at groups
    exact groups
  unfold countPerList
  dsimp only
  generalize entered : input.lists.zipIdx.filterMap _ = ids
  have perId : (ids.map (·.2)).sum = lists.length := by
    rw [← entered, sum_filterMap, ← perIndex]
    congr 2
    funext entry
    obtain ⟨cached, index⟩ := entry
    by_cases none : lists.count index = 0 <;> simp [none]
  have distinct : (CosmeticIndex.sortedSet (ids.map (·.1))).Nodup :=
    (CosmeticIndex.pairwise_sortedSet _).imp Std.ne_of_lt
  have groups := sum_groups (·.1) (·.2) distinct fun entry (among : entry ∈ ids) =>
    CosmeticIndex.mem_sortedSet.2 (List.mem_map_of_mem among)
  rw [← perId, ← groups, List.map_map]
  congr 2
  funext name
  show List.foldl _ 0 _ = _
  rw [List.sum_eq_foldl, List.foldl_map]

end CompileInput

namespace ListEmission

/-- A list emission that has recorded the list of every rule it has counted. -/
structure Listed (bound : Nat) (state : ListEmission) : Prop where
  count : state.lists.length = state.emitted
  inside : ∀ index ∈ state.lists, index < bound

theorem Listed.foldl {bound : Nat} {config : CompilerConfig} {ceiling : Nat}
    {filters : List SourcedFilter} (sources : ∀ sourced ∈ filters, sourced.listIndex < bound)
    {state : ListEmission} (listed : state.Listed bound) :
    (filters.foldl (pushFilter config ceiling) state).Listed bound := by
  induction filters generalizing state with
  | nil => exact listed
  | cons head rest ih =>
    rw [List.foldl_cons]
    apply ih fun sourced later => sources sourced (List.mem_cons_of_mem _ later)
    rcases pushFilter_cases config ceiling state head with
      ⟨_, _, pushed⟩ | ⟨_, _, _, pushed⟩ | ⟨_, _, _, pushed⟩ | ⟨draft, _, _, pushed⟩
    · rw [pushed]
      exact listed
    · rw [pushed]
      exact ⟨listed.count, listed.inside⟩
    · rw [pushed]
      exact ⟨listed.count, listed.inside⟩
    · rw [pushed]
      cases (state.emission.push draft).2 with
      | false => exact ⟨listed.count, listed.inside⟩
      | true =>
        refine ⟨congrArg (· + 1) listed.count, fun index member => ?_⟩
        rcases List.mem_cons.1 member with rfl | before
        · exact sources head List.mem_cons_self
        · exact listed.inside index before

end ListEmission

theorem CompileInput.listIndex_lt {input : CompileInput} {sourced : SourcedFilter}
    (member : sourced ∈ input.sourcedFilters) : sourced.listIndex < input.lists.length := by
  obtain ⟨⟨cached, index⟩, included, from_⟩ := List.mem_flatMap.1 member
  obtain ⟨filter, -, rfl⟩ := List.mem_map.1 from_
  obtain ⟨-, inside, -⟩ := List.mem_zipIdx (List.mem_filter.1 included).1
  rw [Nat.zero_add] at inside
  exact inside

theorem CompileInput.listed_listEmission (input : CompileInput) (config : CompilerConfig) :
    (input.listEmission config).Listed input.lists.length := by
  apply ListEmission.Listed.foldl
  · intro sourced kept
    exact listIndex_lt ((Optimizer.sublist_kept _).subset kept)
  · exact ⟨rfl, fun _ member => nomatch member⟩

/-! ## The whole compilation -/

/-- What a compilation reports about its filters and its rules. -/
structure Compilation.Reports (compilation : Compilation) (input : CompileInput)
    (config : CompilerConfig) : Prop where
  before : compilation.diagnostics.rulesBeforeOptimize =
    (Optimizer.optimize input.sourcedFilters).before
  after : compilation.diagnostics.rulesAfterOptimize =
    (Optimizer.optimize input.sourcedFilters).after
  duplicates : compilation.diagnostics.duplicatesRemoved =
    (Optimizer.optimize input.sourcedFilters).duplicates
  withdrawn : compilation.diagnostics.badfiltered =
    (Optimizer.optimize input.sourcedFilters).withdrawn
  rejected : compilation.diagnostics.rejectedRules = (input.listEmission config).emission.rejected
  perCategory : compilation.diagnostics.rulesPerCategory =
    (ruleIdsByCategory compilation.rules).map fun (category, ids) => (category, ids.length)
  perList : compilation.diagnostics.rulesPerList =
    input.countPerList (input.listEmission config).lists
  cosmetics : compilation.diagnostics.cosmeticRules = compilation.cosmetics.size

theorem compile_reports {input : CompileInput} {config : CompilerConfig} {compilation : Compilation}
    (h : compile input config = .ok compilation) : compilation.Reports input config := by
  have valid := (compile_inv h).valid
  simp only [compile, valid, bind, Except.bind, pure, Except.pure, Except.ok.injEq] at h
  subst h
  exact ⟨rfl, rfl, rfl, rfl, rfl, rfl, rfl, rfl⟩

/-- A compilation whose diagnostics account for every filter and every entry. -/
structure Compilation.Accounts (compilation : Compilation) (input : CompileInput)
    (config : CompilerConfig) : Prop where
  /-- A filter is left, or was repeated or withdrawn, or withdraws others. -/
  filters : compilation.diagnostics.rulesBeforeOptimize =
    compilation.diagnostics.rulesAfterOptimize + compilation.diagnostics.duplicatesRemoved +
      compilation.diagnostics.badfiltered +
      input.sourcedFilters.countP (·.filter.badfilter?.isSome)
  /-- A filter that is left and an entry of the user's are a rule, or a cosmetic one, or were rejected,
  or lay above the ceiling, or got no id. -/
  entries : compilation.diagnostics.rulesAfterOptimize + input.customRules.length +
      input.whitelist.length + input.blacklist.length =
    compilation.rules.length + compilation.diagnostics.cosmeticRules +
      compilation.diagnostics.rejectedRules + compilation.diagnostics.capacityDropped +
      (compilation.diagnostics.rangeExhausted.map (·.dropped)).sum
  /-- The entries and the network filters without a draft were rejected. -/
  rejected : compilation.diagnostics.rejectedRules =
    (input.userDrafts config).countP (·.isNone) +
      (Optimizer.optimize input.sourcedFilters).kept.countP (SourcedFilter.isRejected config)
  /-- Above the ceiling lay the drafts of lists that did not ask for an id. -/
  aboveCeiling : compilation.diagnostics.capacityDropped + (input.listRequests config).length =
    (input.listDrafts config).length
  perCategory : (compilation.diagnostics.rulesPerCategory.map (·.2)).sum = compilation.rules.length
  perList : (compilation.diagnostics.rulesPerList.map (·.2)).sum =
    compilation.rules.countP (·.category.isListCategory)
  /-- The rules are those of the drafts that got the ids they asked for. -/
  served : compilation.rules.Perm (config.idSpace.rules (input.requests config))
  /-- A band is reported if and only if a draft of its category asked for an id in vain. -/
  exhausted : ∀ category,
    (∃ exhaustion ∈ compilation.diagnostics.rangeExhausted, exhaustion.category = category) ↔
      ∃ draft ∈ config.idSpace.unserved (input.requests config), draft.category = category
  /-- The report of a band tells how many drafts got no id, and that all of its ids are used. -/
  full : ∀ exhaustion ∈ compilation.diagnostics.rangeExhausted,
    exhaustion.dropped = (config.idSpace.unserved (input.requests config)).countP
        (·.category == exhaustion.category) ∧
      (config.idSpace.range? exhaustion.category).map (·.width) = some exhaustion.width ∧
      compilation.rules.countP (·.category == exhaustion.category) = exhaustion.width

/-- The rules of lists are those that are counted by list. -/
theorem Compilation.IsOf.countP_isListCategory {input : CompileInput} {config : CompilerConfig}
    {compilation : Compilation} (h : compilation.IsOf input config) :
    compilation.rules.countP (·.category.isListCategory) = (input.listEmission config).emitted := by
  have total := h.length_rules
  have split := List.length_eq_countP_add_countP (fun rule => rule.category.isListCategory)
    (l := compilation.rules)
  have own : compilation.ownRules.length =
      compilation.rules.countP fun rule => decide ¬rule.category.isListCategory := by
    rw [ownRules, ← List.countP_eq_length_filter]
    congr 1
    funext rule
    rw [CompiledRule.isOwn]
    cases rule.category.isListCategory <;> rfl
  omega

/-- Under valid settings there is a compilation that accounts for every filter and every entry. -/
theorem compile_accounts (input : CompileInput) {config : CompilerConfig}
    (valid : config.validate = .ok ()) :
    ∃ compilation, compile input config = .ok compilation ∧
      compilation.Accounts input config := by
  obtain ⟨compilation, compiled⟩ := exists_compile input valid
  have h := compile_inv compiled
  have reports := compile_reports compiled
  have complete : config.idSpace.Complete := CompilerConfig.range?_isSome valid
  obtain ⟨tallied, above⟩ := input.tallied_listEmission config complete
  have noted : compilation.diagnostics.rangeExhausted = Category.all.filterMap
      (config.idSpace.exhaustion? (input.requests config).reverse) := by
    rw [h.rangeExhausted]
    congr 1
    funext category
    exact tallied.exhausted category
  refine ⟨compilation, compiled, ?_⟩
  constructor
  case filters =>
    rw [reports.before, reports.after, reports.duplicates, reports.withdrawn]
    exact Optimizer.before_eq input.sourcedFilters
  case entries =>
    have user := input.length_userDrafts config
    have lists := SourcedFilter.length_eq config (Optimizer.optimize input.sourcedFilters).kept
    have served := config.idSpace.length_rules_add_length_unserved (input.requests config)
    have requests : (input.requests config).length =
        (input.ownDrafts config).length + (input.listRequests config).length :=
      List.length_append
    have cosmetics : compilation.diagnostics.cosmeticRules =
        ((Optimizer.optimize input.sourcedFilters).kept.filterMap
          (·.filter.toCosmetic?)).length := by
      rw [reports.cosmetics, h.cosmetics, CosmeticIndex.size, CosmeticIndex.entries_ofEntries]
    rw [noted, config.idSpace.sum_dropped, reports.after, reports.rejected, tallied.rejected,
      h.capacityDropped, h.perm_requests.length_eq, cosmetics, Optimizer.Outcome.after]
    rw [← CompileInput.listDrafts] at lists
    omega
  case rejected => rw [reports.rejected, tallied.rejected]
  case aboveCeiling =>
    rw [h.capacityDropped]
    exact above
  case perCategory =>
    rw [reports.perCategory, List.map_map]
    exact sum_ruleIdsByCategory compilation.rules
  case perList =>
    have listed := input.listed_listEmission config
    rw [reports.perList, input.sum_countPerList listed.inside, listed.count,
      h.countP_isListCategory]
  case served => exact h.perm_requests
  case exhausted =>
    intro category
    rw [noted]
    constructor
    · rintro ⟨exhaustion, member, rfl⟩
      obtain ⟨other, dropped, rfl⟩ := IdSpace.mem_exhaustions_iff.1 member
      obtain ⟨draft, without, same⟩ := List.countP_pos_iff.1 dropped
      exact ⟨draft, without, beq_iff_eq.1 same⟩
    · rintro ⟨draft, without, rfl⟩
      have dropped : 0 < (config.idSpace.unserved (input.requests config)).countP
          (·.category == draft.category) :=
        List.countP_pos_iff.2 ⟨draft, without, beq_self_eq_true draft.category⟩
      exact ⟨_, IdSpace.mem_exhaustions_iff.2 ⟨draft.category, dropped, rfl⟩, rfl⟩
  case full =>
    intro exhaustion member
    rw [noted] at member
    obtain ⟨category, dropped, rfl⟩ := IdSpace.mem_exhaustions_iff.1 member
    obtain ⟨range, declared⟩ := Option.isSome_iff_exists.1 (complete category)
    refine ⟨rfl, ?_, ?_⟩
    · show (config.idSpace.range? category).map _ = some (config.idSpace.capacity category)
      rw [IdSpace.capacity, declared, Option.map_some]
    · rw [h.perm_requests.countP_eq, IdSpace.countP_rules_of_unserved dropped]

/-- A compilation in which a domain got no id and a pattern was rejected. -/
theorem compile_accounts_crowded :
    narrowConfig.validate = .ok () ∧
      ∃ compilation, compile crowdedInput narrowConfig = .ok compilation ∧
        compilation.Accounts crowdedInput narrowConfig := by
  have valid : narrowConfig.validate = .ok () := rfl
  exact ⟨valid, compile_accounts crowdedInput valid⟩

end ContentFilter
