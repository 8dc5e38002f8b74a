import ContentFilter.Proofs.Compilation.ByCategory
import ContentFilter.Proofs.Compilation.Precedence

/-!
# Where compiled rules come from

The drafts of a category come from its source rules, one from each and in the same order.  So the id of
a compiled rule tells the source rule that it stems from: it stands at the same place as the id in its
band.  No compiled rule stems from a filter of a list that withdraws others; but a custom rule is
compiled whether or not it is marked as one that withdraws.
-/

namespace ContentFilter

/-- The source rule that a custom rule stands for, if it can be compiled. -/
def CustomRule.source? (rule : CustomRule) : Option SourceRule :=
  (rule.toFilter?.filter (·.isAccepted)).map .custom

/-- The source rule that a filter of a list is, if it can be compiled into a rule. -/
def SourcedFilter.source? (sourced : SourcedFilter) : Option SourceRule :=
  (sourced.filter.asNetwork?.filter (·.isAccepted)).map .listed

/-- Whether a source rule carries the mark of one that withdraws others. -/
def SourceRule.withdraws : SourceRule → Bool
  | .listed filter | .custom filter => filter.badfilter
  | .whitelisted _ | .blacklisted _ => false

/-- A compiled rule that does what a source rule says. -/
structure CompiledRule.CarriesOut (rule : CompiledRule) (config : CompilerConfig)
    (source : SourceRule) : Prop where
  priority : rule.priority = source.tier.priority
  action : rule.action = source.tier.action
  matches_iff : ∀ request, rule.matchesRequest request = source.applies config request

theorem RuleDraft.Realizes.carriesOut {draft : RuleDraft} {config : CompilerConfig}
    {source : SourceRule} (realizes : draft.Realizes config source) (id : Nat) :
    (draft.toRule id).CarriesOut config source := by
  refine ⟨?_, ?_, ?_⟩
  · rw [← realizes.tier]
    rfl
  · rw [← realizes.tier]
    rfl
  · intro request
    rw [RuleDraft.matchesRequest_toRule, realizes.matches_iff]

/-- What is read in two ways from the same entries, where both ways leave out the same ones. -/
theorem forall₂_filterMap {α β γ : Type} {R : β → γ → Prop} {f : α → Option β} {g : α → Option γ}
    {entries : List α}
    (both : ∀ entry ∈ entries, (f entry = none ∧ g entry = none) ∨
      ∃ b c, f entry = some b ∧ g entry = some c ∧ R b c) :
    List.Forall₂ R (entries.filterMap f) (entries.filterMap g) := by
  induction entries with
  | nil => exact .nil
  | cons head rest ih =>
    have tail := ih fun entry later => both entry (List.mem_cons_of_mem _ later)
    rcases both head List.mem_cons_self with ⟨noneF, noneG⟩ | ⟨b, c, someF, someG, related⟩
    · rw [List.filterMap_cons_none noneF, List.filterMap_cons_none noneG]
      exact tail
    · rw [List.filterMap_cons_some someF, List.filterMap_cons_some someG]
      exact .cons related tail

/-- A custom rule has a source rule if it has a draft, which carries it out. -/
theorem CustomRule.source?_cases (config : CompilerConfig) (rule : CustomRule) :
    (RuleDraft.ofCustomRule? config rule = none ∧ rule.source? = none) ∨
    ∃ draft source, RuleDraft.ofCustomRule? config rule = some draft ∧ rule.source? = some source ∧
      draft.Realizes config source := by
  rw [source?]
  rcases RuleDraft.ofCustomRule?_cases config rule with
    ⟨refused, none⟩ | ⟨filter, draft, read, accepted, drafted, realizes⟩
  · refine .inl ⟨none, ?_⟩
    rw [Option.map_eq_none_iff, Option.filter_eq_none_iff]
    intro filter read
    rw [refused filter read]
    exact Bool.false_ne_true
  · refine .inr ⟨draft, _, drafted, ?_, realizes⟩
    rw [read, Option.filter_some, accepted, if_pos rfl, Option.map_some]

/-- So has a filter of a list. -/
theorem SourcedFilter.source?_cases (config : CompilerConfig) (sourced : SourcedFilter) :
    (sourced.draft? config = none ∧ sourced.source? = none) ∨
    ∃ draft source, sourced.draft? config = some draft ∧ sourced.source? = some source ∧
      draft.Realizes config source := by
  rw [source?]
  cases kind : sourced.filter with
  | elementHide => exact .inl ⟨by rw [draft?, kind], rfl⟩
  | scriptlet => exact .inl ⟨by rw [draft?, kind], rfl⟩
  | network filter =>
    rcases draft?_cases config kind with ⟨refused, none⟩ | ⟨draft, accepted, drafted, realizes⟩
    · refine .inl ⟨none, ?_⟩
      rw [Filter.asNetwork?, Option.filter_some, refused, if_neg Bool.false_ne_true, Option.map_none]
    · refine .inr ⟨draft, _, drafted, ?_, realizes⟩
      rw [Filter.asNetwork?, Option.filter_some, accepted, if_pos rfl, Option.map_some]

namespace CompileInput

variable (input : CompileInput) (config : CompilerConfig)

/-- The filters of lists that are left for a category. -/
def keptOf (category : Category) : List SourcedFilter :=
  (Optimizer.optimize input.sourcedFilters).kept.filter (·.category == category)

/-- The source rules of a category that can be compiled, in their order. -/
def sourcesOf : Category → List SourceRule
  | .whitelist => input.whitelist.filterMap fun entry => (Domain.normalize? entry).map .whitelisted
  | .blacklist => input.blacklist.filterMap fun entry => (Domain.normalize? entry).map .blacklisted
  | .custom => input.customRules.filterMap (·.source?)
  | category => (input.keptOf category).filterMap (·.source?)

/-- The source rule that a compiled rule stems from. -/
def origin? (rule : CompiledRule) : Option SourceRule :=
  (config.idSpace.range? rule.category).bind fun range =>
    (input.sourcesOf rule.category)[rule.id - range.start]?

theorem sourcesOf_listed {category : Category} (listed : category.isListCategory) :
    input.sourcesOf category = (input.keptOf category).filterMap (·.source?) := by
  cases category with
  | whitelist | blacklist | custom => cases listed
  | _ => rfl

theorem draftsOf_eq_keptOf {category : Category} (listed : category.isListCategory) :
    input.draftsOf config category =
      (input.keptOf category).filterMap (SourcedFilter.draft? config) := by
  rw [input.draftsOf_listed config listed, keptOf, listDrafts, List.filter_filterMap,
    List.filterMap_filter]
  congr 1
  funext sourced
  cases drafted : sourced.draft? config with
  | none => simp
  | some draft =>
    rw [← SourcedFilter.category_of_draft? drafted]
    simp [Option.filter]

/-- The drafts of a category carry out its source rules, one by one. -/
theorem forall₂_draftsOf_sourcesOf (category : Category) :
    List.Forall₂ (fun draft source => RuleDraft.Realizes draft config source)
      (input.draftsOf config category) (input.sourcesOf category) := by
  cases kind : category.isListCategory with
  | true =>
    rw [input.draftsOf_eq_keptOf config kind, input.sourcesOf_listed kind]
    exact forall₂_filterMap fun sourced _ => sourced.source?_cases config
  | false =>
    cases category with
    | whitelist =>
      rw [draftsOf_whitelist]
      refine forall₂_filterMap fun entry _ => ?_
      rcases RuleDraft.ofWhitelist?_cases config entry with
        ⟨none, undrafted⟩ | ⟨domain, draft, normal, drafted, realizes⟩
      · exact .inl ⟨undrafted, by rw [none, Option.map_none]⟩
      · exact .inr ⟨draft, _, drafted, by rw [normal, Option.map_some], realizes⟩
    | blacklist =>
      rw [draftsOf_blacklist]
      refine forall₂_filterMap fun entry _ => ?_
      rcases RuleDraft.ofBlacklist?_cases config entry with
        ⟨none, undrafted⟩ | ⟨domain, draft, normal, drafted, realizes⟩
      · exact .inl ⟨undrafted, by rw [none, Option.map_none]⟩
      · exact .inr ⟨draft, _, drafted, by rw [normal, Option.map_some], realizes⟩
    | custom =>
      rw [draftsOf_custom]
      exact forall₂_filterMap fun rule _ => rule.source?_cases config
    | _ => cases kind

variable {input config}

/-- A filter that withdraws others is not left. -/
theorem not_withdraws_of_mem_keptOf {category : Category} {sourced : SourcedFilter}
    (kept : sourced ∈ input.keptOf category) {source : SourceRule}
    (isSource : sourced.source? = some source) : source.withdraws = false := by
  obtain ⟨-, plain, -⟩ := Optimizer.of_mem_kept (List.mem_filter.1 kept).1
  obtain ⟨filter, read, rfl⟩ := Option.map_eq_some_iff.1 isSource
  obtain ⟨isNetwork, -⟩ := Option.filter_eq_some_iff.1 read
  cases kind : sourced.filter with
  | elementHide | scriptlet =>
    rw [kind] at isNetwork
    cases isNetwork
  | network network =>
    rw [kind] at isNetwork plain
    cases isNetwork
    rw [Filter.badfilter?_network] at plain
    cases marked : filter.badfilter with
    | false => exact marked
    | true =>
      rw [marked] at plain
      cases plain

/-- Of the source rules only custom ones can be marked. -/
theorem not_withdraws_of_mem_sourcesOf {category : Category} (other : category ≠ .custom)
    {source : SourceRule} (member : source ∈ input.sourcesOf category) :
    source.withdraws = false := by
  cases category with
  | custom => exact absurd rfl other
  | whitelist | blacklist =>
    obtain ⟨entry, -, normal⟩ := List.mem_filterMap.1 member
    obtain ⟨domain, -, rfl⟩ := Option.map_eq_some_iff.1 normal
    rfl
  | _ =>
    obtain ⟨sourced, kept, isSource⟩ := List.mem_filterMap.1 member
    exact not_withdraws_of_mem_keptOf kept isSource

/-- A place among the rules of a category is a place among its source rules. -/
theorem exists_source_of_getElem? {category : Category} {rank : Nat} {rule : CompiledRule}
    (place : (input.rulesOf config category)[rank]? = some rule) :
    ∃ source, (input.sourcesOf category)[rank]? = some source ∧
      input.origin? config rule = some source ∧ rule.CarriesOut config source := by
  obtain ⟨draft, id, drafted, given, rfl⟩ := getElem?_rulesOf.1 place
  obtain ⟨range, declared, rfl, -⟩ := IdSpace.idAt?_eq_some_iff.1 given
  have kind : draft.category = category :=
    beq_iff_eq.1 (List.mem_filter.1 (List.mem_of_getElem? drafted)).2
  subst kind
  obtain ⟨below, atPlace⟩ := List.getElem?_eq_some_iff.1 drafted
  obtain ⟨count, all⟩ :=
    List.forall₂_iff_get.1 (input.forall₂_draftsOf_sourcesOf config draft.category)
  have realizes := all rank below (count ▸ below)
  rw [List.get_eq_getElem, List.get_eq_getElem, atPlace] at realizes
  have found := List.getElem?_eq_getElem (count ▸ below)
  refine ⟨_, found, ?_, realizes.carriesOut _⟩
  show (config.idSpace.range? draft.category).bind _ = _
  rw [declared, Option.bind_some]
  show (input.sourcesOf draft.category)[range.start + rank - range.start]? = _
  rw [Nat.add_sub_cancel_left]
  exact found

/-- Of the source rules of a category those within the band have rules. -/
theorem exists_rule_of_mem_sourcesOf {category : Category} {source : SourceRule}
    (member : source ∈ (input.sourcesOf category).take (config.idSpace.capacity category)) :
    ∃ rule ∈ input.rulesOf config category, input.origin? config rule = some source := by
  obtain ⟨rank, place⟩ := List.mem_iff_getElem?.1 member
  rw [List.getElem?_take] at place
  split at place
  · rename_i within
    have count := (input.forall₂_draftsOf_sourcesOf config category).length_eq
    have below := (List.getElem?_eq_some_iff.1 place).1
    have inside : rank < (input.rulesOf config category).length := by
      rw [length_rulesOf]
      omega
    have found := List.getElem?_eq_getElem inside
    obtain ⟨other, same, origin, -⟩ := exists_source_of_getElem? found
    rw [place, Option.some.injEq] at same
    exact ⟨_, List.mem_of_getElem? found, same ▸ origin⟩
  · cases place

end CompileInput

/-- A compiled rule stems from a source rule of its category, one of those within the band. -/
theorem Compilation.IsOf.exists_origin {compilation : Compilation} {input : CompileInput}
    {config : CompilerConfig} (h : compilation.IsOf input config)
    (bands : IdSpace.Valid config.idSpace.ranges) {rule : CompiledRule}
    (member : rule ∈ compilation.rules) :
    ∃ source ∈ (input.sourcesOf rule.category).take (config.idSpace.capacity rule.category),
      input.origin? config rule = some source ∧ rule.CarriesOut config source := by
  have filed : rule ∈ compilation.rules.filter (·.category == rule.category) :=
    List.mem_filter.2 ⟨member, beq_self_eq_true rule.category⟩
  have among := (h.filter_isPrefix bands rule.category).subset filed
  obtain ⟨rank, place⟩ := List.mem_iff_getElem?.1 among
  obtain ⟨source, found, traced⟩ := CompileInput.exists_source_of_getElem? place
  have within := (List.getElem?_eq_some_iff.1 place).1
  rw [CompileInput.length_rulesOf] at within
  refine ⟨source, List.mem_iff_getElem?.2 ⟨rank, ?_⟩, traced⟩
  rw [List.getElem?_take_of_lt (by omega), found]

/-- A compilation whose rules can be traced back to source rules. -/
structure Compilation.TracesBack (compilation : Compilation) (input : CompileInput)
    (config : CompilerConfig) : Prop where
  /-- Every rule stems from a source rule, and does what it says. -/
  origin : ∀ rule ∈ compilation.rules, ∃ source, input.origin? config rule = some source ∧
    rule.CarriesOut config source
  /-- No rule but a custom one stems from a filter that withdraws others. -/
  plain : ∀ rule ∈ compilation.rules, rule.category ≠ .custom →
    ∀ source ∈ input.origin? config rule, source.withdraws = false
  /-- A custom one does if an id is left for it. -/
  withdraws_iff : (∃ rule ∈ compilation.rules, ∃ source ∈ input.origin? config rule,
      source.withdraws) ↔
    ∃ source ∈ (input.sourcesOf .custom).take (config.idSpace.capacity .custom), source.withdraws

/-- Under valid settings there is a compilation whose rules can be traced back; a rule stems from a
source rule that is marked as withdrawing others exactly if a custom rule is marked so, and has a valid
pattern and an id. -/
theorem compile_tracesBack (input : CompileInput) {config : CompilerConfig} {ranges : List IdRange}
    (accepted : IdSpace.ofRanges ranges = .ok config.idSpace) (valid : config.validate = .ok ()) :
    ∃ compilation, compile input config = .ok compilation ∧
      compilation.TracesBack input config := by
  obtain ⟨compilation, compiled⟩ := exists_compile input valid
  have h := compile_inv compiled
  have bands := IdSpace.valid_of_ofRanges accepted
  -- the mark of a rule that is not a custom one would be on a source rule that cannot have it
  have plain : ∀ rule ∈ compilation.rules, rule.category ≠ .custom →
      ∀ source ∈ input.origin? config rule, source.withdraws = false := by
    intro rule member other source origin
    obtain ⟨found, among, unique, -⟩ := h.exists_origin bands member
    obtain rfl : found = source := Option.some.inj (unique.symm.trans (Option.mem_def.1 origin))
    exact CompileInput.not_withdraws_of_mem_sourcesOf other (List.mem_of_mem_take among)
  refine ⟨compilation, compiled, ?_, plain, ?_⟩
  · intro rule member
    obtain ⟨source, -, traced⟩ := h.exists_origin bands member
    exact ⟨source, traced⟩
  · constructor
    · rintro ⟨rule, member, source, origin, marked⟩
      have custom : rule.category = .custom := by
        by_contra other
        rw [plain rule member other source origin] at marked
        cases marked
      obtain ⟨found, among, unique, -⟩ := h.exists_origin bands member
      obtain rfl : found = source := Option.some.inj (unique.symm.trans (Option.mem_def.1 origin))
      rw [custom] at among
      exact ⟨found, among, marked⟩
    · rintro ⟨source, member, marked⟩
      obtain ⟨rule, among, origin⟩ := CompileInput.exists_rule_of_mem_sourcesOf member
      rw [← h.filter_own bands rfl] at among
      exact ⟨rule, (List.mem_filter.1 among).1, source, origin, marked⟩

/-- A list in which a filter withdraws another one, and a custom rule of the same text. -/
def markedInput : CompileInput where
  lists := [.ofText (.new "base" "https://lists.test/base" .ads)
    "-banner-\n-banner-$badfilter\n-popup-" 1]
  customRules := [⟨7, "-banner-$badfilter", .block, 7⟩]
  whitelist := []
  blacklist := []
  enabledCategories := [.ads]
  ruleBudget := none

/-- The list loses its filter. -/
theorem compile_tracesBack_marked :
    IdSpace.ofRanges IdSpace.builtIn.ranges = .ok CompilerConfig.standard.idSpace ∧
      CompilerConfig.standard.validate = .ok () ∧
      ∃ compilation, compile markedInput .standard = .ok compilation ∧
        compilation.TracesBack markedInput .standard := by
  have accepted : IdSpace.ofRanges IdSpace.builtIn.ranges = .ok CompilerConfig.standard.idSpace := rfl
  have valid : CompilerConfig.standard.validate = .ok () := rfl
  exact ⟨accepted, valid, compile_tracesBack markedInput accepted valid⟩

/-- The custom rule, which is to withdraw the filter of the list, blocks in its place. -/
theorem exists_withdraws_marked :
    ∃ compilation, compile markedInput .standard = .ok compilation ∧
      ∃ rule ∈ compilation.rules, ∃ source ∈ markedInput.origin? .standard rule,
        source.withdraws ∧ rule.action = .block := by
  have valid : CompilerConfig.standard.validate = .ok () := rfl
  obtain ⟨compilation, compiled⟩ := exists_compile markedInput valid
  have emitted : ∃ rule ∈ (markedInput.listEmission .standard).emission.rules,
      (markedInput.origin? .standard rule).any (·.withdraws) ∧ rule.action = .block := by
    decide +kernel
  obtain ⟨rule, among, marked, blocks⟩ := emitted
  obtain ⟨source, origin, withdraws⟩ := (Option.any_eq_true _ _).1 marked
  exact ⟨compilation, compiled, rule, (compile_inv compiled).mem_rules.2 among, source, origin,
    withdraws, blocks⟩

end ContentFilter
