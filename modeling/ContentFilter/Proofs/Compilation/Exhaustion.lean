import ContentFilter.Proofs.Compilation.Cut

/-!
# Bands that are used up

A shorter band costs its own category the rules that came last, and no other category any rule: places
below the ceiling that it frees go to rules that come later.
-/

namespace ContentFilter

/-- `narrow` differs from `wide` in that the band of a category ends earlier: at `short`, not at `stop`. -/
structure CompilerConfig.Shortens (narrow wide : CompilerConfig) (category : Category)
    (start short stop : Nat) : Prop where
  maxListRules : narrow.maxListRules = wide.maxListRules
  defaultTypes : narrow.defaultTypes = wide.defaultTypes
  others : ∀ other, other ≠ category → narrow.idSpace.range? other = wide.idSpace.range? other
  wideBand : wide.idSpace.range? category = some ⟨category, start, stop⟩
  narrowBand : narrow.idSpace.range? category = some ⟨category, start, short⟩
  nonempty : start < short
  shorter : short ≤ stop

/-! ## Rules that fit the shorter band -/

/-- Whether a rule is of another category or has an id below the end of the shorter band. -/
def CompiledRule.fits (category : Category) (short : Nat) (rule : CompiledRule) : Bool :=
  rule.category != category || rule.id < short

namespace IdSpace

/-- The rules of a category have its ids from the bottom of its band. -/
theorem ids_rules {space : IdSpace} (valid : Valid space.ranges) {category : Category}
    {range : IdRange} (declared : space.range? category = some range) (drafts : List RuleDraft) :
    ∃ count, ((space.rules drafts).filter (·.category == category)).map (·.id) =
      List.range' range.start count := by
  -- the rules are those of an emission that goes through the drafts and nothing else
  have emitted := ((Emission.Behind.start space).foldl_pushUser (drafts.map some)).2
  have numbered : ((drafts.map some).foldl Emission.pushUser (.start space)).Numbered space := by
    apply Emission.foldl_pushUser_induct (.start space)
    · intro emission numbered
      exact numbered.reject
    · intro emission draft _ numbered
      exact numbered.push valid draft
  have ids := numbered.ids category range declared
  have all : (drafts.map some).filterMap id = drafts := by simp [List.filterMap_map]
  have fresh : (Emission.start space).rules = [] := rfl
  rw [emitted, all, fresh, List.append_nil, List.filter_reverse, List.map_reverse] at ids
  exact ⟨_, List.reverse_injective ids⟩

/-- With a shorter band there are the ids below its end. -/
theorem idAt?_of_shortens {narrow wide : CompilerConfig} {category : Category}
    {start short stop : Nat} (shortens : narrow.Shortens wide category start short stop)
    (other : Category) (rank id : Nat) :
    narrow.idSpace.idAt? other rank = some id ↔
      wide.idSpace.idAt? other rank = some id ∧ (other ≠ category ∨ id < short) := by
  rw [idAt?_eq_some_iff, idAt?_eq_some_iff]
  by_cases same : other = category
  · subst same
    have below := shortens.shorter
    rw [shortens.wideBand, shortens.narrowBand]
    simp only [Option.some.injEq, exists_eq_left', ne_eq, not_true_eq_false, false_or]
    omega
  · rw [shortens.others other same, and_iff_left (.inl same)]

/-- With a shorter band the rules are those that fit it. -/
theorem rules_of_shortens {narrow wide : CompilerConfig} {category : Category}
    {start short stop : Nat} (shortens : narrow.Shortens wide category start short stop)
    (drafts : List RuleDraft) :
    narrow.idSpace.rules drafts =
      (wide.idSpace.rules drafts).filter (CompiledRule.fits category short) := by
  rw [rules, rules, List.filter_filterMap]
  congr 1
  funext ranked
  apply Option.ext
  intro rule
  rw [Option.filter_eq_some_iff, rule?, rule?, Option.map_eq_some_iff, Option.map_eq_some_iff]
  constructor
  · rintro ⟨id, found, rfl⟩
    obtain ⟨there, fits⟩ := (idAt?_of_shortens shortens _ _ _).1 found
    refine ⟨⟨id, there, rfl⟩, ?_⟩
    rw [CompiledRule.fits, Bool.or_eq_true, bne_iff_ne, decide_eq_true_iff]
    exact fits
  · rintro ⟨⟨id, there, rfl⟩, fits⟩
    rw [CompiledRule.fits, Bool.or_eq_true, bne_iff_ne, decide_eq_true_iff] at fits
    exact ⟨id, (idAt?_of_shortens shortens _ _ _).2 ⟨there, fits⟩, rfl⟩

end IdSpace

/-! ## Cutting off -/

namespace CompiledRule

variable {category : Category} {short : Nat}

/-- All rules of another category fit. -/
theorem filter_filter_fits {other : Category} (different : other ≠ category)
    (rules : List CompiledRule) :
    (rules.filter (fits category short)).filter (·.category == other) =
      rules.filter (·.category == other) := by
  rw [List.filter_filter]
  apply List.filter_congr
  intro rule _
  by_cases same : rule.category = other
  · subst same
    simp [fits, different]
  · simp [same]

/-- Of the rules of the category the first fit. -/
theorem filter_fits_filter {start count : Nat} (rules : List CompiledRule)
    (ids : (rules.filter (·.category == category)).map (·.id) = List.range' start count) :
    (rules.filter (fits category short)).filter (·.category == category) =
      (rules.filter (·.category == category)).take (short - start) := by
  have kinds : ∀ rule ∈ rules.filter (·.category == category), rule.category = category := by
    intro rule member
    exact beq_iff_eq.1 (List.mem_filter.1 member).2
  rw [List.filter_comm]
  generalize rules.filter (·.category == category) = own at ids kinds ⊢
  induction own generalizing start count with
  | nil => rw [List.filter_nil, List.take_nil]
  | cons head rest ih =>
    have kind := kinds head List.mem_cons_self
    cases count with
    | zero => cases ids
    | succ count =>
      rw [List.map_cons, List.range'_succ, List.cons.injEq] at ids
      have tail := ih ids.2 fun rule later => kinds rule (List.mem_cons_of_mem _ later)
      by_cases below : start < short
      · have room : short - start = short - (start + 1) + 1 := by omega
        rw [List.filter_cons_of_pos (by simp [fits, ids.1, below]), tail, room, List.take_succ_cons]
      · have none : short - start = 0 := by omega
        have noneLater : short - (start + 1) = 0 := by omega
        rw [List.filter_cons_of_neg (by simp [fits, kind, ids.1, below]), tail, none, noneLater,
          List.take_zero, List.take_zero]

/-- What fits of the first rules is among the first that fit. -/
theorem filter_take_isPrefix (category : Category) (short : Nat) (rules : List CompiledRule)
    {ceiling higher : Nat} (above : ceiling ≤ higher) :
    (rules.take ceiling).filter (fits category short) <+:
      (rules.filter (fits category short)).take higher := by
  rw [List.prefix_take_iff]
  refine ⟨(List.take_prefix _ _).filter _, ?_⟩
  have count := List.length_filter_le (fits category short) (rules.take ceiling)
  have below := List.length_take_le ceiling rules
  omega

/-- Below the same ceiling the rules of the category that fit are the first of those that do not have to
fit: others move up only behind them. -/
theorem filter_take_fits {start count : Nat} (rules : List CompiledRule)
    (ids : (rules.filter (·.category == category)).map (·.id) = List.range' start count)
    (ceiling : Nat) :
    ((rules.filter (fits category short)).take ceiling).filter (·.category == category) =
      ((rules.take ceiling).filter (·.category == category)).take (short - start) := by
  have cut : (rules.take ceiling).filter (·.category == category) <+:
      rules.filter (·.category == category) := (List.take_prefix _ _).filter _
  have idsCut : ((rules.take ceiling).filter (·.category == category)).map (·.id) =
      List.range' start ((rules.take ceiling).filter (·.category == category)).length := by
    have first := cut.map (·.id)
    rw [ids] at first
    have few := first.length_le
    rw [List.length_map, List.length_range'] at few
    rw [List.prefix_iff_eq_take.1 first, List.length_map, List.take_range'_of_length_ge few]
  have atLeast := (filter_take_isPrefix category short rules (Nat.le_refl ceiling)).filter
    (·.category == category)
  have atMost := (List.take_prefix ceiling (rules.filter (fits category short))).filter
    (·.category == category)
  rw [filter_fits_filter rules ids] at atMost
  rw [filter_fits_filter _ idsCut] at atLeast
  by_cases many : short - start ≤ ((rules.take ceiling).filter (·.category == category)).length
  · -- enough of them lie below the ceiling: both sides are as many as fit at all
    refine (atLeast.eq_of_length_le (Nat.le_trans atMost.length_le ?_)).symm
    rw [List.length_take, List.length_take, Nat.min_eq_left many]
    exact Nat.min_le_left _ _
  · -- all of them fit, so that no other rule moves up
    have allFit : (rules.take ceiling).filter (fits category short) = rules.take ceiling := by
      rw [List.filter_eq_self]
      intro rule member
      by_cases kind : rule.category = category
      · have kept : rule ∈ (rules.take ceiling).filter (·.category == category) :=
          List.mem_filter.2 ⟨member, beq_iff_eq.2 kind⟩
        have among := List.mem_map_of_mem (f := (·.id)) kept
        rw [idsCut, List.mem_range'_1] at among
        rw [fits, Bool.or_eq_true, decide_eq_true_iff]
        exact .inr (by omega)
      · rw [fits, Bool.or_eq_true, bne_iff_ne]
        exact .inl kind
    have same : (rules.filter (fits category short)).take ceiling = rules.take ceiling := by
      have front := filter_take_isPrefix category short rules (Nat.le_refl ceiling)
      rw [allFit] at front
      refine (front.eq_of_length_le ?_).symm
      rw [List.length_take, List.length_take]
      have fewer := List.length_filter_le (fits category short) rules
      omega
    rw [same, List.take_of_length_le (Nat.le_of_not_ge many)]

end CompiledRule

/-! ## Whole compilations -/

namespace CompileInput

variable (input : CompileInput)

theorem ceiling_eq (config : CompilerConfig) :
    input.ceiling config = listCeiling config.maxListRules input.ruleBudget
      (config.idSpace.rules (input.ownDrafts config)).length := by
  rw [ceiling, rules_userEmission, List.length_reverse]

/-- The user's own rules are of no category of lists. -/
theorem filter_ownRules (config : CompilerConfig) (space : IdSpace) {category : Category}
    (listed : category.isListCategory) :
    (space.rules (input.ownDrafts config)).filter (·.category == category) = [] := by
  rw [List.filter_eq_nil_iff]
  intro rule member same
  have own := input.isOwn_of_mem_rules config space rule member
  rw [CompiledRule.isOwn, beq_iff_eq.1 same, listed] at own
  cases own

/-- The rules of lists are of no category of the user's own. -/
theorem filter_listRules (config : CompilerConfig) {space : IdSpace} {category : Category}
    (own : category.isListCategory = false) {rules : List CompiledRule}
    (some : rules.Sublist (space.rules (input.listDrafts config))) :
    rules.filter (·.category == category) = [] := by
  rw [List.filter_eq_nil_iff]
  intro rule member same
  have listed := input.not_isOwn_of_mem_rules config space rule (some.subset member)
  rw [CompiledRule.isOwn, beq_iff_eq.1 same, own] at listed
  cases listed

variable {narrow wide : CompilerConfig} {category : Category} {start short stop : Nat}
  (shortens : narrow.Shortens wide category start short stop)
include shortens

theorem ownRules_of_shortens :
    narrow.idSpace.rules (input.ownDrafts narrow) =
      (wide.idSpace.rules (input.ownDrafts wide)).filter (CompiledRule.fits category short) := by
  rw [IdSpace.rules_of_shortens shortens, ownDrafts_congr rfl rfl rfl shortens.defaultTypes]

theorem listRules_of_shortens :
    narrow.idSpace.rules (input.listDrafts narrow) =
      (wide.idSpace.rules (input.listDrafts wide)).filter (CompiledRule.fits category short) := by
  rw [IdSpace.rules_of_shortens shortens, listDrafts_congr rfl rfl shortens.defaultTypes]

/-- A shorter band raises the ceiling if it costs rules of the user's own. -/
theorem ceiling_le_of_shortens : input.ceiling wide ≤ input.ceiling narrow := by
  have fewer := List.length_filter_le (CompiledRule.fits category short)
    (wide.idSpace.rules (input.ownDrafts wide))
  rw [ceiling_eq, ceiling_eq, shortens.maxListRules, input.ownRules_of_shortens shortens]
  cases input.ruleBudget with
  | none => exact Nat.le_refl _
  | some budget =>
    simp only [listCeiling]
    omega

/-- A shorter band of lists leaves the ceiling as it is. -/
theorem ceiling_of_shortens (listed : category.isListCategory) :
    input.ceiling narrow = input.ceiling wide := by
  have all : (wide.idSpace.rules (input.ownDrafts wide)).filter
      (CompiledRule.fits category short) = wide.idSpace.rules (input.ownDrafts wide) := by
    rw [List.filter_eq_self]
    intro rule member
    rw [CompiledRule.fits, Bool.or_eq_true, bne_iff_ne]
    refine .inl fun same => ?_
    have own := input.isOwn_of_mem_rules wide _ rule member
    rw [CompiledRule.isOwn, same, listed] at own
    cases own
  rw [ceiling_eq, ceiling_eq, shortens.maxListRules, input.ownRules_of_shortens shortens, all]

end CompileInput

/-- The rules of a category, in the order of their ids, are those of its drafts up to the ceiling. -/
theorem Compilation.IsOf.filter_category {input : CompileInput} {config : CompilerConfig}
    {compilation : Compilation} (h : compilation.IsOf input config)
    (valid : IdSpace.Valid config.idSpace.ranges) (category : Category) :
    compilation.rules.filter (·.category == category) =
      (config.idSpace.rules (input.ownDrafts config)).filter (·.category == category) ++
        ((config.idSpace.rules (input.listDrafts config)).take (input.ceiling config)).filter
          (·.category == category) := by
  obtain ⟨range, declared⟩ :=
    Option.isSome_iff_exists.1 (CompilerConfig.range?_isSome h.valid category)
  have ids : ((input.listEmission config).emission.rules.filter (·.category == category)).map
      (·.id) = _ := (numbered valid).ids category range declared
  have ordered : ((input.listEmission config).emission.rules.reverse.filter
      (·.category == category)).Pairwise fun a b => a.id < b.id := by
    have increasing : (((input.listEmission config).emission.rules.reverse.filter
        (·.category == category)).map (·.id)).Pairwise (· < ·) := by
      rw [List.filter_reverse, List.map_reverse, ids, List.reverse_reverse]
      exact List.pairwise_lt_range'
    exact List.pairwise_map.1 increasing
  rw [h.filter_rules valid, sortById_eq_self ordered, (input.rules_listEmission config).1,
    List.reverse_append, List.reverse_reverse, List.reverse_reverse, List.filter_append]

/-- A compilation that lacks the last rules of one category and no rule of the others. -/
structure Compilation.Loses (narrow wide : Compilation) (category : Category) (width : Nat) :
    Prop where
  /-- The category keeps its first rules. -/
  first : narrow.rules.filter (·.category == category) =
    (wide.rules.filter (·.category == category)).take width
  /-- The others keep all of theirs, and may have more behind them. -/
  others : ∀ other, other ≠ category → wide.rules.filter (·.category == other) <+:
    narrow.rules.filter (·.category == other)
  /-- More there are only if rules lay above the ceiling. -/
  same : wide.diagnostics.capacityDropped = 0 → ∀ other, other ≠ category →
    narrow.rules.filter (·.category == other) = wide.rules.filter (·.category == other)

/-- A shorter band costs its category what lies behind its end, and costs the others nothing. -/
theorem compile_loses (input : CompileInput) {narrow wide : CompilerConfig}
    {narrowRanges wideRanges : List IdRange}
    (acceptedNarrow : IdSpace.ofRanges narrowRanges = .ok narrow.idSpace)
    (acceptedWide : IdSpace.ofRanges wideRanges = .ok wide.idSpace)
    (validNarrow : narrow.validate = .ok ()) (validWide : wide.validate = .ok ())
    {category : Category} {start short stop : Nat}
    (shortens : narrow.Shortens wide category start short stop) :
    ∃ compiledNarrow compiledWide, compile input narrow = .ok compiledNarrow ∧
      compile input wide = .ok compiledWide ∧
      compiledNarrow.Loses compiledWide category (short - start) := by
  have narrowBands := IdSpace.valid_of_ofRanges acceptedNarrow
  have wideBands := IdSpace.valid_of_ofRanges acceptedWide
  obtain ⟨compiledNarrow, narrowRun⟩ := exists_compile input validNarrow
  obtain ⟨compiledWide, wideRun⟩ := exists_compile input validWide
  have hNarrow := compile_inv narrowRun
  have hWide := compile_inv wideRun
  refine ⟨compiledNarrow, compiledWide, narrowRun, wideRun, ?_⟩
  obtain ⟨ownCount, ownIds⟩ :=
    IdSpace.ids_rules wideBands shortens.wideBand (input.ownDrafts wide)
  obtain ⟨listCount, listIds⟩ :=
    IdSpace.ids_rules wideBands shortens.wideBand (input.listDrafts wide)
  constructor
  case first =>
    rw [hNarrow.filter_category narrowBands, hWide.filter_category wideBands,
      input.ownRules_of_shortens shortens, input.listRules_of_shortens shortens,
      CompiledRule.filter_fits_filter _ ownIds]
    cases kind : category.isListCategory with
    | true =>
      rw [input.filter_ownRules wide _ kind, input.ceiling_of_shortens shortens kind,
        CompiledRule.filter_take_fits _ listIds, List.take_nil, List.nil_append, List.nil_append]
    | false =>
      have fitting := (List.take_sublist (input.ceiling narrow) _).trans
        (List.filter_sublist (p := CompiledRule.fits category short)
          (l := wide.idSpace.rules (input.listDrafts wide)))
      rw [input.filter_listRules wide kind fitting,
        input.filter_listRules wide kind (List.take_sublist _ _), List.append_nil, List.append_nil]
  case others =>
    intro other different
    have front := (CompiledRule.filter_take_isPrefix category short
      (wide.idSpace.rules (input.listDrafts wide))
      (input.ceiling_le_of_shortens shortens)).filter (·.category == other)
    rw [CompiledRule.filter_filter_fits different] at front
    rw [hNarrow.filter_category narrowBands, hWide.filter_category wideBands,
      input.ownRules_of_shortens shortens, input.listRules_of_shortens shortens,
      CompiledRule.filter_filter_fits different, List.prefix_append_right_inj]
    exact front
  case same =>
    intro below other different
    have count := (input.rules_listEmission wide).2
    rw [← hWide.capacityDropped, below, Nat.add_zero] at count
    have higher := input.ceiling_le_of_shortens shortens
    have fewer := List.length_filter_le (CompiledRule.fits category short)
      (wide.idSpace.rules (input.listDrafts wide))
    rw [hNarrow.filter_category narrowBands, hWide.filter_category wideBands,
      input.ownRules_of_shortens shortens, input.listRules_of_shortens shortens,
      CompiledRule.filter_filter_fits different, List.take_of_length_le count,
      List.take_of_length_le (by omega), CompiledRule.filter_filter_fits different]

/-- Settings that lack one of the two ids of a category. -/
def cramped (category : Category) : CompilerConfig where
  maxListRules := 3
  idSpace := ⟨narrowConfig.idSpace.ranges.map fun range =>
    if range.category = category then { range with stop := range.stop - 1 } else range⟩
  defaultTypes := .common

/-- One id less for advertisements. -/
theorem compile_loses_ads :
    IdSpace.ofRanges (cramped .ads).idSpace.ranges = .ok (cramped .ads).idSpace ∧
      IdSpace.ofRanges narrowConfig.idSpace.ranges = .ok narrowConfig.idSpace ∧
      (cramped .ads).validate = .ok () ∧ narrowConfig.validate = .ok () ∧
      (cramped .ads).Shortens narrowConfig .ads 1 2 3 ∧
      ∃ compiledNarrow compiledWide,
        compile crowdedInput (cramped .ads) = .ok compiledNarrow ∧
        compile crowdedInput narrowConfig = .ok compiledWide ∧
        compiledNarrow.Loses compiledWide .ads (2 - 1) := by
  have acceptedNarrow : IdSpace.ofRanges (cramped .ads).idSpace.ranges =
    .ok (cramped .ads).idSpace := rfl
  have acceptedWide : IdSpace.ofRanges narrowConfig.idSpace.ranges =
    .ok narrowConfig.idSpace := rfl
  have validNarrow : (cramped .ads).validate = .ok () := rfl
  have validWide : narrowConfig.validate = .ok () := rfl
  have shortens : (cramped .ads).Shortens narrowConfig .ads 1 2 3 := by
    refine ⟨rfl, rfl, ?_, rfl, rfl, by decide, by decide⟩
    intro other different
    cases other with
    | ads => exact absurd rfl different
    | _ => rfl
  exact ⟨acceptedNarrow, acceptedWide, validNarrow, validWide, shortens,
    compile_loses crowdedInput acceptedNarrow acceptedWide validNarrow validWide shortens⟩

end ContentFilter
