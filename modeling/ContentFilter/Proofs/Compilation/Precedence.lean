import ContentFilter.Optimizer.Lemmas
import ContentFilter.Proofs.Compilation.Emission
import ContentFilter.Proofs.Compilation.Tiers
import ContentFilter.Proofs.Matching.Best
import ContentFilter.Regex.Search.Lemmas

/-!
# Precedence of compiled rules

The verdict of compiled rules is that of the highest tier in which a source rule applies.  Every source
rule is carried out by a draft of its tier that matches the requests to which the rule applies, and no
draft does anything else; without drops every draft becomes a rule.  Filters of one identity are
interchangeable, so it does not matter which of them is kept.
-/

namespace ContentFilter

/-! ## Drafts and their source rules -/

namespace RuleDraft

/-- Whether the rule of a draft matches a request, whatever its id. -/
def matchesRequest (draft : RuleDraft) (request : Request) : Bool :=
  (draft.toRule 0).matchesRequest request

theorem matchesRequest_toRule (draft : RuleDraft) (id : Nat) (request : Request) :
    (draft.toRule id).matchesRequest request = draft.matchesRequest request := rfl

/-- A draft that carries out a source rule. -/
structure Realizes (draft : RuleDraft) (config : CompilerConfig) (source : SourceRule) : Prop where
  tier : draft.tier = source.tier
  matches_iff : ∀ request, draft.matchesRequest request = source.applies config request

/-- The conditions on domains, in the form of rules and in the form of scopes. -/
theorem scope_conditions (request : Request) (scope : Domain.Scope) :
    (((nonEmpty? scope.includes).all fun includes =>
        request.site?.any fun site => includes.any (Domain.matchesDomain site)) &&
      (nonEmpty? scope.excludes).all fun excludes =>
        !request.site?.any fun site => excludes.any (Domain.matchesDomain site)) =
      request.isWithin scope := by
  rcases scope with ⟨includes, excludes⟩
  cases site : request.site? with
  | none => cases includes <;> cases excludes <;> simp [Request.isWithin, nonEmpty?, site]
  | some host =>
    cases includes <;> cases excludes <;>
      simp [Request.isWithin, nonEmpty?, site, Domain.applies]

/-- The condition on parties. -/
theorem party_condition (request : Request) (party : Option Party) :
    (party.all fun party => request.isThirdParty == (party == .third)) =
      request.respects party := by
  unfold Request.respects
  rcases party with _ | _ | _ <;> cases request.isThirdParty <;> rfl

/-- A filter whose pattern is accepted has a draft that matches the requests which the filter covers,
and no other filter has one. -/
theorem ofFilter?_cases (config : CompilerConfig) (category : Category) (tier : PriorityTier)
    (filter : NetworkFilter) :
    (filter.isAccepted = false ∧ ofFilter? config category tier filter = none) ∨
    ∃ draft, filter.isAccepted = true ∧ ofFilter? config category tier filter = some draft ∧
      draft.tier = tier ∧
      ∀ request, draft.matchesRequest request = filter.covers config.defaultTypes request := by
  rcases drafted : ofFilter? config category tier filter with _ | draft
  · simp only [ofFilter?, ite_eq_right_iff, reduceCtorEq, imp_false, Bool.not_eq_true] at drafted
    exact .inl ⟨drafted, rfl⟩
  · simp only [ofFilter?, Option.ite_none_right_eq_some, Option.some.injEq] at drafted
    obtain ⟨accepted, rfl⟩ := drafted
    refine .inr ⟨_, accepted, rfl, rfl, fun request => ?_⟩
    have scope := scope_conditions request filter.scope
    have party := party_condition request filter.party
    simp only [Request.site?, Request.isThirdParty] at scope party
    simp only [matchesRequest, CompiledRule.matchesRequest, CompiledRule.conditionHolds, toRule,
      NetworkFilter.covers, Request.fits, Option.all_some]
    rw [Bool.and_assoc (_ : Bool) (Option.all _ (nonEmpty? filter.scope.includes)), scope, party]

/-- The pattern of whitelisted sites is found in every URL. -/
theorem any_isMatch_anything (url : List Char) :
    (FilterPattern.load? false ".*").any (·.isMatch url) = true := by
  have loads : ∃ set, FilterPattern.load? false ".*" = some (.repeated 0 none (.one set)) :=
    ⟨_, rfl⟩
  obtain ⟨set, loads⟩ := loads
  rw [loads, Option.any_some, Regex.isMatch_iff]
  exact ⟨[], [], url, rfl, .repeatedNil⟩

end RuleDraft

/-! ## Filters that stand -/

namespace CompileInput

variable {input : CompileInput}

theorem mem_listedFilters {filter : NetworkFilter} :
    filter ∈ input.listedFilters ↔
      ∃ sourced ∈ input.sourcedFilters, sourced.filter = .network filter := by
  simp only [listedFilters, sourcedFilters, includedLists, List.mem_flatMap, List.mem_filter,
    List.mem_filterMap, List.mem_map]
  constructor
  · intro given
    obtain ⟨cached, ⟨member, included⟩, listed, among, kind⟩ := given
    obtain ⟨index, placed⟩ := List.mem_iff_getElem?.1 member
    have indexed : (cached, index) ∈ input.lists.zipIdx := List.mk_mem_zipIdx_iff_getElem?.2 placed
    refine ⟨_, ⟨(cached, index), ⟨indexed, included⟩, listed, among, rfl⟩, ?_⟩
    cases listed <;> simp_all [Filter.asNetwork?]
  · intro given
    obtain ⟨sourced, ⟨⟨cached, index⟩, ⟨indexed, included⟩, listed, among, rfl⟩, kind⟩ := given
    have placed := List.mk_mem_zipIdx_iff_getElem?.1 indexed
    obtain rfl : listed = .network filter := kind
    exact ⟨cached, ⟨List.mem_of_getElem? placed, included⟩, _, among, rfl⟩

/-- The filters that stand are those that the optimizer considers for keeping. -/
theorem mem_standingFilters {filter : NetworkFilter} :
    filter ∈ input.standingFilters ↔
      ∃ sourced ∈ input.sourcedFilters, sourced.filter = .network filter ∧
        sourced.filter.badfilter?.isNone ∧
        Optimizer.isWithdrawn (Optimizer.withdrawnKeys input.sourcedFilters) sourced.filter =
          false := by
  have withdrawn : (input.listedFilters.any fun other => other.badfilter && other.key == filter.key) =
      Optimizer.isWithdrawn (Optimizer.withdrawnKeys input.sourcedFilters) (.network filter) := by
    rw [Bool.eq_iff_iff, Optimizer.isWithdrawn, List.contains_iff_mem, Optimizer.mem_withdrawnKeys]
    simp only [List.any_eq_true, mem_listedFilters, Bool.and_eq_true, beq_iff_eq]
    constructor
    · intro given
      obtain ⟨other, ⟨sourced, member, kind⟩, bad, same⟩ := given
      exact ⟨sourced, member, other, kind, bad, same⟩
    · intro given
      obtain ⟨sourced, member, other, kind, bad, same⟩ := given
      exact ⟨other, ⟨sourced, member, kind⟩, bad, same⟩
  simp only [standingFilters, List.mem_filter, withdrawn, mem_listedFilters, Bool.and_eq_true,
    Bool.not_eq_true']
  constructor
  · intro given
    obtain ⟨⟨sourced, member, kind⟩, plain, stands⟩ := given
    refine ⟨sourced, member, kind, ?_, kind ▸ stands⟩
    simp [kind, Filter.badfilter?_network, plain]
  · intro given
    obtain ⟨sourced, member, kind, plain, stands⟩ := given
    refine ⟨⟨sourced, member, kind⟩, ?_, kind ▸ stands⟩
    simpa [kind, Filter.badfilter?_network] using plain

end CompileInput

/-! ## Drafts and source rules correspond -/

namespace SourceRule

/-- Filters of one identity are interchangeable. -/
theorem tier_listed_congr {a b : NetworkFilter} (same : a.key = b.key) :
    (listed a).tier = (listed b).tier := by
  simp only [NetworkFilter.key, NetworkKey.mk.injEq] at same
  simp only [tier, same]

theorem applies_listed_congr {a b : NetworkFilter} (same : a.key = b.key)
    (config : CompilerConfig) (request : Request) :
    (listed a).applies config request = (listed b).applies config request := by
  simp only [NetworkFilter.key, NetworkKey.mk.injEq] at same
  simp only [applies, NetworkFilter.covers, same]

theorem isAccepted_congr {a b : NetworkFilter} (same : a.key = b.key) :
    a.isAccepted = b.isAccepted := by
  simp only [NetworkFilter.key, NetworkKey.mk.injEq] at same
  simp only [NetworkFilter.isAccepted, same]

end SourceRule

namespace RuleDraft

variable (config : CompilerConfig)

theorem ofWhitelist?_cases (entry : String) :
    (Domain.normalize? entry = none ∧ ofWhitelist? entry = none) ∨
    ∃ domain draft, Domain.normalize? entry = some domain ∧ ofWhitelist? entry = some draft ∧
      draft.Realizes config (.whitelisted domain) := by
  unfold ofWhitelist?
  cases Domain.normalize? entry with
  | none => exact .inl ⟨rfl, rfl⟩
  | some domain =>
    refine .inr ⟨domain, _, rfl, rfl, rfl, fun request => ?_⟩
    simp only [matchesRequest, CompiledRule.matchesRequest, CompiledRule.conditionHolds, toRule,
      any_isMatch_anything, SourceRule.applies, Request.site?, Option.all_some, Option.all_none,
      List.any_cons, List.any_nil, Bool.or_false, Bool.and_true]

theorem ofBlacklist?_cases (entry : String) :
    (Domain.normalize? entry = none ∧ ofBlacklist? config entry = none) ∨
    ∃ domain draft, Domain.normalize? entry = some domain ∧
      ofBlacklist? config entry = some draft ∧ draft.Realizes config (.blacklisted domain) := by
  unfold ofBlacklist?
  cases Domain.normalize? entry with
  | none => exact .inl ⟨rfl, rfl⟩
  | some domain =>
    refine .inr ⟨domain, _, rfl, rfl, rfl, fun request => ?_⟩
    simp only [matchesRequest, CompiledRule.matchesRequest, CompiledRule.conditionHolds, toRule,
      SourceRule.applies, Request.fits, Option.all_some, Option.all_none, Bool.and_true]

theorem ofCustomRule?_cases (rule : CustomRule) :
    ((∀ filter, rule.toFilter? = some filter → filter.isAccepted = false) ∧
      ofCustomRule? config rule = none) ∨
    ∃ filter draft, rule.toFilter? = some filter ∧ filter.isAccepted = true ∧
      ofCustomRule? config rule = some draft ∧ draft.Realizes config (.custom filter) := by
  unfold ofCustomRule?
  cases rule.toFilter? with
  | none => exact .inl ⟨by simp, rfl⟩
  | some filter =>
    rw [Option.bind_eq_bind, Option.bind_some]
    rcases ofFilter?_cases config .custom (.ofUserRule .custom filter.isException) filter with
      ⟨refused, missing⟩ | ⟨draft, accepted, drafted, tier, covers⟩
    · exact .inl ⟨fun other same => Option.some.inj same ▸ refused, missing⟩
    · exact .inr ⟨filter, draft, rfl, accepted, drafted, tier, covers⟩

end RuleDraft

theorem SourcedFilter.draft?_cases (config : CompilerConfig) {sourced : SourcedFilter}
    {filter : NetworkFilter} (kind : sourced.filter = .network filter) :
    (filter.isAccepted = false ∧ sourced.draft? config = none) ∨
    ∃ draft, filter.isAccepted = true ∧ sourced.draft? config = some draft ∧
      draft.Realizes config (.listed filter) := by
  simp only [draft?, kind]
  rcases RuleDraft.ofFilter?_cases config sourced.category (.ofListFilter filter) filter with
    ⟨refused, missing⟩ | ⟨draft, accepted, drafted, tier, covers⟩
  · exact .inl ⟨refused, missing⟩
  · exact .inr ⟨draft, accepted, drafted, tier, covers⟩

namespace CompileInput

variable {input : CompileInput} {config : CompilerConfig}

theorem mem_sourceRules {source : SourceRule} :
    source ∈ input.sourceRules ↔
      (∃ entry ∈ input.whitelist, ∃ domain, Domain.normalize? entry = some domain ∧
        source = .whitelisted domain) ∨
      (∃ entry ∈ input.blacklist, ∃ domain, Domain.normalize? entry = some domain ∧
        source = .blacklisted domain) ∨
      (∃ rule ∈ input.customRules, ∃ filter, rule.toFilter? = some filter ∧
        filter.isAccepted = true ∧ source = .custom filter) ∨
      ∃ filter ∈ input.standingFilters, filter.isAccepted = true ∧ source = .listed filter := by
  simp only [sourceRules, List.mem_append, List.mem_map, List.mem_filter, List.mem_filterMap]
  constructor
  · rintro (((⟨domain, ⟨entry, member, normal⟩, rfl⟩ | ⟨domain, ⟨entry, member, normal⟩, rfl⟩) |
      ⟨filter, ⟨⟨rule, member, reading⟩, accepted⟩, rfl⟩) | ⟨filter, ⟨standing, accepted⟩, rfl⟩)
    · exact .inl ⟨entry, member, domain, normal, rfl⟩
    · exact .inr (.inl ⟨entry, member, domain, normal, rfl⟩)
    · exact .inr (.inr (.inl ⟨rule, member, filter, reading, accepted, rfl⟩))
    · exact .inr (.inr (.inr ⟨filter, standing, accepted, rfl⟩))
  · rintro (⟨entry, member, domain, normal, rfl⟩ | ⟨entry, member, domain, normal, rfl⟩ |
      ⟨rule, member, filter, reading, accepted, rfl⟩ | ⟨filter, standing, accepted, rfl⟩)
    · exact .inl (.inl (.inl ⟨domain, ⟨entry, member, normal⟩, rfl⟩))
    · exact .inl (.inl (.inr ⟨domain, ⟨entry, member, normal⟩, rfl⟩))
    · exact .inl (.inr ⟨filter, ⟨⟨rule, member, reading⟩, accepted⟩, rfl⟩)
    · exact .inr ⟨filter, ⟨standing, accepted⟩, rfl⟩

/-- Every draft carries out a source rule. -/
theorem exists_source {draft : RuleDraft} (h : draft ∈ input.drafts config) :
    ∃ source ∈ input.sourceRules, draft.Realizes config source := by
  simp only [mem_sourceRules]
  rcases mem_drafts.1 h with
    ⟨entry, member, drafted⟩ | ⟨entry, member, drafted⟩ | ⟨rule, member, drafted⟩ |
      ⟨sourced, kept, drafted⟩
  · rcases RuleDraft.ofWhitelist?_cases config entry with
      ⟨_, missing⟩ | ⟨domain, other, normal, same, realizes⟩
    · rw [missing] at drafted
      cases drafted
    · obtain rfl : draft = other := Option.some.inj (drafted.symm.trans same)
      exact ⟨_, .inl ⟨entry, member, domain, normal, rfl⟩, realizes⟩
  · rcases RuleDraft.ofBlacklist?_cases config entry with
      ⟨_, missing⟩ | ⟨domain, other, normal, same, realizes⟩
    · rw [missing] at drafted
      cases drafted
    · obtain rfl : draft = other := Option.some.inj (drafted.symm.trans same)
      exact ⟨_, .inr (.inl ⟨entry, member, domain, normal, rfl⟩), realizes⟩
  · rcases RuleDraft.ofCustomRule?_cases config rule with
      ⟨_, missing⟩ | ⟨filter, other, reading, accepted, same, realizes⟩
    · rw [missing] at drafted
      cases drafted
    · obtain rfl : draft = other := Option.some.inj (drafted.symm.trans same)
      exact ⟨_, .inr (.inr (.inl ⟨rule, member, filter, reading, accepted, rfl⟩)), realizes⟩
  · obtain ⟨member, plain, stands⟩ := Optimizer.of_mem_kept kept
    cases kind : sourced.filter with
    | network filter =>
      rcases SourcedFilter.draft?_cases config kind with
        ⟨_, missing⟩ | ⟨other, accepted, same, realizes⟩
      · rw [missing] at drafted
        cases drafted
      · obtain rfl : draft = other := Option.some.inj (drafted.symm.trans same)
        have standing := mem_standingFilters.2 ⟨sourced, member, kind, plain, stands⟩
        exact ⟨_, .inr (.inr (.inr ⟨filter, standing, accepted, rfl⟩)), realizes⟩
    | elementHide => simp [SourcedFilter.draft?, kind] at drafted
    | scriptlet => simp [SourcedFilter.draft?, kind] at drafted

/-- Every source rule is carried out by a draft. -/
theorem exists_draft (config : CompilerConfig) {source : SourceRule}
    (h : source ∈ input.sourceRules) :
    ∃ draft ∈ input.drafts config, draft.Realizes config source := by
  simp only [mem_drafts]
  rcases mem_sourceRules.1 h with
    ⟨entry, member, domain, normal, rfl⟩ | ⟨entry, member, domain, normal, rfl⟩ |
      ⟨rule, member, filter, reading, accepted, rfl⟩ | ⟨filter, standing, accepted, rfl⟩
  · rcases RuleDraft.ofWhitelist?_cases config entry with
      ⟨missing, _⟩ | ⟨other, draft, same, drafted, realizes⟩
    · rw [missing] at normal
      cases normal
    · obtain rfl : domain = other := Option.some.inj (normal.symm.trans same)
      exact ⟨draft, .inl ⟨entry, member, drafted⟩, realizes⟩
  · rcases RuleDraft.ofBlacklist?_cases config entry with
      ⟨missing, _⟩ | ⟨other, draft, same, drafted, realizes⟩
    · rw [missing] at normal
      cases normal
    · obtain rfl : domain = other := Option.some.inj (normal.symm.trans same)
      exact ⟨draft, .inr (.inl ⟨entry, member, drafted⟩), realizes⟩
  · rcases RuleDraft.ofCustomRule?_cases config rule with
      ⟨refused, _⟩ | ⟨other, draft, same, _, drafted, realizes⟩
    · rw [refused filter reading] at accepted
      cases accepted
    · obtain rfl : filter = other := Option.some.inj (reading.symm.trans same)
      exact ⟨draft, .inr (.inr (.inl ⟨rule, member, drafted⟩)), realizes⟩
  · -- The filter itself may have been dropped as a duplicate; its twin has the same draft.
    obtain ⟨sourced, member, kind, plain, stands⟩ := mem_standingFilters.1 standing
    obtain ⟨other, kept, same⟩ := Optimizer.exists_mem_kept member plain stands
    rw [kind] at same
    cases otherKind : other.filter with
    | network twin =>
      rw [otherKind] at same
      have same : twin.key = filter.key := FilterKey.network.inj same
      rcases SourcedFilter.draft?_cases config otherKind with
        ⟨refused, _⟩ | ⟨draft, _, drafted, realizes⟩
      · rw [SourceRule.isAccepted_congr same, accepted] at refused
        cases refused
      · refine ⟨draft, .inr (.inr (.inr ⟨other, kept, drafted⟩)), ?_, fun request => ?_⟩
        · rw [realizes.tier, SourceRule.tier_listed_congr same]
        · rw [realizes.matches_iff, SourceRule.applies_listed_congr same]
    | elementHide => simp [otherKind, Filter.key] at same
    | scriptlet => simp [otherKind, Filter.key] at same

end CompileInput

/-! ## The deciding tier -/

namespace PriorityTier

theorem mem_precedence (tier : PriorityTier) : tier ∈ precedence := by
  cases tier <;> decide

theorem pairwise_precedence : precedence.Pairwise fun a b => b.priority < a.priority := by
  decide

/-- The first tier of a kind is the only one of its priority, and no other of the kind is higher. -/
theorem find?_precedence_eq_some {holds : PriorityTier → Bool} {tier : PriorityTier}
    (member : holds tier) (highest : ∀ other, holds other → other.priority ≤ tier.priority) :
    precedence.find? holds = some tier := by
  rcases found : precedence.find? holds with _ | first
  · exact absurd member (by simpa using List.find?_eq_none.1 found tier (mem_precedence tier))
  · obtain ⟨first_holds, before, behind, split, none⟩ := List.find?_eq_some_iff_append.1 found
    have sorted := pairwise_precedence
    have among := mem_precedence tier
    rw [split] at sorted among
    rcases List.mem_append.1 among with early | late
    · have := none tier early
      simp [member] at this
    · rcases List.mem_cons.1 late with same | later
      · rw [same]
      · have below := List.rel_of_pairwise_cons (List.pairwise_append.1 sorted).2.1 later
        exact absurd (highest first first_holds) (Nat.not_le_of_lt below)

end PriorityTier

namespace Compilation.IsOf

variable {input : CompileInput} {config : CompilerConfig} {compilation : Compilation}

/-- A compiled rule that matches a request stands in the tier of a source rule that applies. -/
theorem exists_applicable (h : compilation.IsOf input config) {request : Request}
    {rule : CompiledRule}
    (candidate : rule ∈ (Matcher.ofRules compilation.rules).candidates request) :
    ∃ source ∈ input.sourceRules, source.applies config request ∧
      rule.priority = source.tier.priority ∧ rule.action = source.tier.action := by
  obtain ⟨member, found⟩ := Matcher.mem_candidates_ofRules.1 candidate
  obtain ⟨draft, drafted, same⟩ := h.exists_draft member
  obtain ⟨source, sourced, realizes⟩ := CompileInput.exists_source drafted
  rw [same, RuleDraft.matchesRequest_toRule, realizes.matches_iff] at found
  refine ⟨source, sourced, found, ?_, ?_⟩
  · rw [same, ← realizes.tier]
    rfl
  · rw [same, ← realizes.tier]
    rfl

/-- If nothing was dropped, a source rule that applies to a request has a compiled rule of its tier
that matches. -/
theorem exists_candidate (h : compilation.IsOf input config)
    (below : compilation.diagnostics.capacityDropped = 0)
    (none : compilation.diagnostics.rangeExhausted = []) {request : Request} {source : SourceRule}
    (sourced : source ∈ input.sourceRules) (applies : source.applies config request) :
    ∃ rule ∈ (Matcher.ofRules compilation.rules).candidates request,
      rule.priority = source.tier.priority := by
  obtain ⟨draft, drafted, realizes⟩ := CompileInput.exists_draft config sourced
  obtain ⟨id, member⟩ := h.exists_rule below none drafted
  refine ⟨draft.toRule id, Matcher.mem_candidates_ofRules.2 ⟨member, ?_⟩, ?_⟩
  · rw [RuleDraft.matchesRequest_toRule, realizes.matches_iff, applies]
  · rw [← realizes.tier]
    rfl

end Compilation.IsOf

/-- Valid settings yield a compilation, and if it dropped no rule, its verdict on every request is that
of the highest tier in which a source rule applies; where none applies, the request is allowed. -/
theorem decide_compile_follows_decidingTier (input : CompileInput) {config : CompilerConfig}
    (valid : config.validate = .ok ()) :
    ∃ compilation, compile input config = .ok compilation ∧
      (compilation.diagnostics.capacityDropped = 0 →
        compilation.diagnostics.rangeExhausted = [] →
        ∀ request, ((Matcher.ofRules compilation.rules).decide request).Follows
          (input.decidingTier? config request)) := by
  obtain ⟨compilation, compiled⟩ := exists_compile input valid
  refine ⟨compilation, compiled, fun below none request => ?_⟩
  have h := compile_inv compiled
  unfold Matcher.decide
  rcases best : Matcher.best? ((Matcher.ofRules compilation.rules).candidates request) with _ | rule
  · have unmatched : input.decidingTier? config request = Option.none := by
      have empty := Matcher.best?_eq_none_iff.1 best
      rw [CompileInput.decidingTier?, List.find?_eq_none]
      rintro tier - applicable
      obtain ⟨source, sourced, applies⟩ := List.any_eq_true.1 applicable
      rw [Bool.and_eq_true] at applies
      obtain ⟨rule, candidate, _⟩ := h.exists_candidate below none sourced applies.2
      rw [empty] at candidate
      cases candidate
    rw [unmatched]
    exact .undecided
  · obtain ⟨candidate, highest⟩ := Matcher.best?_eq_some best
    obtain ⟨source, sourced, applies, priority, action⟩ := h.exists_applicable candidate
    have decided : input.decidingTier? config request = some source.tier := by
      apply PriorityTier.find?_precedence_eq_some
      · exact List.any_eq_true.2 ⟨source, sourced, by simp [applies]⟩
      · intro tier applicable
        obtain ⟨other, among, holds⟩ := List.any_eq_true.1 applicable
        rw [Bool.and_eq_true, beq_iff_eq] at holds
        obtain ⟨rival, rivals, level⟩ := h.exists_candidate below none among holds.2
        rw [← holds.1, ← level, ← priority]
        exact CompiledRule.priority_le_of_rank_le (highest rival rivals)
    show Verdict.Follows ⟨rule.action, some rule.id, rule.priority⟩ _
    rw [decided, action, priority]
    exact .decided source.tier rule.id

/-- A list that excepts the scripts of a domain and withdraws its own block of it, below a user who
blocks the domain and allows a site. -/
def layeredInput : CompileInput where
  lists := [.ofText (.new "base" "https://lists.test/base" .ads)
    "||a.io^\n@@||a.io^$script\n||a.io^$badfilter" 1]
  customRules := []
  whitelist := ["b.io"]
  blacklist := ["a.io"]
  enabledCategories := [.ads]
  ruleBudget := some 10

/-- A request for a script of the domain, made from a site. -/
def layeredRequest (initiator : String) : Request := ⟨"http://a.io", .only .script, some initiator⟩

/-- The user's block goes before the exception of the list, and the allowed site before the block. -/
theorem decide_compile_follows_layers :
    CompilerConfig.standard.validate = .ok () ∧
      ∃ compilation, compile layeredInput .standard = .ok compilation ∧
        compilation.diagnostics.capacityDropped = 0 ∧
        compilation.diagnostics.rangeExhausted = [] ∧
        ((Matcher.ofRules compilation.rules).decide (layeredRequest "http://c.io")).Follows
          (some .blacklist) ∧
        ((Matcher.ofRules compilation.rules).decide (layeredRequest "http://b.io")).Follows
          (some .whitelist) := by
  have valid : CompilerConfig.standard.validate = .ok () := rfl
  obtain ⟨compilation, compiled, follows⟩ :=
    decide_compile_follows_decidingTier layeredInput valid
  have h := compile_inv compiled
  have kept : (layeredInput.listEmission .standard).capacityDropped = 0 ∧
      (layeredInput.listEmission .standard).emission.exhausted = [] := by
    decide +kernel
  have below : compilation.diagnostics.capacityDropped = 0 := by
    rw [h.capacityDropped]
    exact kept.1
  have none : compilation.diagnostics.rangeExhausted = [] := by
    rw [h.rangeExhausted, kept.2]
    rfl
  have tiers : layeredInput.decidingTier? .standard (layeredRequest "http://c.io") =
        some .blacklist ∧
      layeredInput.decidingTier? .standard (layeredRequest "http://b.io") =
        some .whitelist := by
    decide +kernel
  have blocked := follows below none (layeredRequest "http://c.io")
  have allowed := follows below none (layeredRequest "http://b.io")
  rw [tiers.1] at blocked
  rw [tiers.2] at allowed
  exact ⟨valid, compilation, compiled, below, none, blocked, allowed⟩

end ContentFilter
