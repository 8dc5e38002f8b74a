import ContentFilter.Proofs.Compilation.Ceiling
import ContentFilter.Proofs.FilterPattern.HostAnchor
import ContentFilter.Proofs.Regex.LetterCase

/-!
# Loading compiled rules

Patterns are checked where letter case counts, and most of them are loaded where it does not.  The patterns
of whitelisted sites and of blacklisted domains are not checked at all.  Every compiled rule is loaded all
the same, as long as the machines that ignore letter case stay within the limit for loading.
-/

namespace ContentFilter

/-! ## Accepted patterns -/

namespace FilterPattern

variable {pattern : String}

theorem load?_eq_some_iff {caseSensitive : Bool} {r : Regex} :
    load? caseSensitive pattern = some r ↔
      Regex.read (!caseSensitive) pattern.toList = some r ∧ r.plan.fits maxLoadedSize :=
  Regex.compile_eq_some_iff

/-- An accepted pattern is an expression where letter case counts, and its machines are small. -/
theorem exists_read_of_isValid (valid : isValid pattern) :
    ∃ r, Regex.read false pattern.toList = some r ∧ r.plan.fits maxRuleSize := by
  obtain ⟨r, compiled⟩ := Option.isSome_iff_exists.1 (Bool.and_eq_true_iff.1 valid).2
  exact ⟨r, Regex.compile_eq_some_iff.1 compiled⟩

/-- It is an expression where letter case does not count as well. -/
theorem isSome_read_of_isValid (valid : isValid pattern) (ignoreCase : Bool) :
    (Regex.read ignoreCase pattern.toList).isSome := by
  obtain ⟨r, reads, -⟩ := exists_read_of_isValid valid
  rw [Regex.isSome_read _ ignoreCase false, reads]
  rfl

/-- Where letter case counts, an accepted pattern is loaded. -/
theorem isSome_load?_of_isValid (valid : isValid pattern) : (load? true pattern).isSome := by
  obtain ⟨r, reads, fits⟩ := exists_read_of_isValid valid
  have larger : r.plan.fits maxLoadedSize := Regex.Plan.fits_mono (by decide) fits
  have loads : load? true pattern = some r := load?_eq_some_iff.2 ⟨reads, larger⟩
  rw [loads]
  rfl

/-- The pattern of whitelisted sites is accepted, and it is loaded. -/
theorem isValid_anything : isValid ".*" ∧ (load? false ".*").isSome := by
  decide +kernel

end FilterPattern

namespace CompiledRule

/-- Whether the pattern of the rule is an expression, but its machines are above the limit for loading. -/
def isOversized (rule : CompiledRule) : Bool :=
  (Regex.read (!rule.caseSensitive) rule.matchPattern.toList).any
    (!·.plan.fits FilterPattern.maxLoadedSize)

variable {rule : CompiledRule}

theorem isOversized_eq_false
    (loads : (FilterPattern.load? rule.caseSensitive rule.matchPattern).isSome) :
    rule.isOversized = false := by
  obtain ⟨r, found⟩ := Option.isSome_iff_exists.1 loads
  obtain ⟨reads, fits⟩ := FilterPattern.load?_eq_some_iff.1 found
  simp [isOversized, reads, fits]

/-- A rule with an accepted pattern is loaded unless it is oversized. -/
theorem isNone_load? (valid : FilterPattern.isValid rule.matchPattern) :
    rule.load?.isNone = rule.isOversized := by
  rw [load?, Option.isNone_map]
  cases loads : FilterPattern.load? rule.caseSensitive rule.matchPattern with
  | some r => rw [isOversized_eq_false (by simp [loads]), Option.isNone_some]
  | none =>
    have reads := FilterPattern.isSome_read_of_isValid valid (!rule.caseSensitive)
    obtain ⟨r, reads⟩ := Option.isSome_iff_exists.1 reads
    have large : r.plan.fits FilterPattern.maxLoadedSize = false := by
      rw [Bool.eq_false_iff]
      intro fits
      rw [FilterPattern.load?_eq_some_iff.2 ⟨reads, fits⟩] at loads
      cases loads
    rw [isOversized, reads, Option.any_some, large, Option.isNone_none]
    rfl

end CompiledRule

/-! ## The patterns of drafts -/

theorem RuleDraft.isValid_of_ofFilter? {config : CompilerConfig} {category : Category}
    {tier : PriorityTier} {filter : NetworkFilter} {draft : RuleDraft}
    (h : ofFilter? config category tier filter = some draft) :
    FilterPattern.isValid draft.matchPattern := by
  simp only [ofFilter?, Option.ite_none_right_eq_some, Option.some.injEq] at h
  obtain ⟨valid, rfl⟩ := h
  exact valid

/-- Whether checked or not, every pattern is accepted; those of sites and domains are loaded besides. -/
theorem CompileInput.pattern_of_mem_drafts {input : CompileInput} {config : CompilerConfig}
    {draft : RuleDraft} (member : draft ∈ input.drafts config) :
    FilterPattern.isValid draft.matchPattern ∧
      (draft.category ∈ [.whitelist, .blacklist] →
        (FilterPattern.load? draft.caseSensitive draft.matchPattern).isSome) := by
  rcases mem_drafts.1 member with
    ⟨entry, -, drafted⟩ | ⟨entry, -, drafted⟩ | ⟨rule, -, drafted⟩ | ⟨sourced, kept, drafted⟩
  · obtain ⟨domain, -, rfl⟩ := Option.map_eq_some_iff.1 drafted
    exact ⟨FilterPattern.isValid_anything.1, fun _ => FilterPattern.isValid_anything.2⟩
  · obtain ⟨domain, normal, rfl⟩ := Option.map_eq_some_iff.1 drafted
    have normal := Domain.normalize?_of_normalize? normal
    refine ⟨FilterPattern.isValid_ofName normal, fun _ => ?_⟩
    rw [FilterPattern.load?_ofName normal]
    rfl
  · rw [RuleDraft.ofCustomRule?, Option.bind_eq_bind, Option.bind_eq_some_iff] at drafted
    obtain ⟨filter, -, drafted⟩ := drafted
    refine ⟨RuleDraft.isValid_of_ofFilter? drafted, fun synthesized => ?_⟩
    rw [RuleDraft.category_of_ofFilter? drafted] at synthesized
    exact absurd synthesized (by decide)
  · have listed : draft.category.isListCategory := by
      rw [SourcedFilter.category_of_draft? drafted]
      exact isListCategory_of_mem_kept kept
    refine ⟨?_, fun synthesized => ?_⟩
    · unfold SourcedFilter.draft? at drafted
      split at drafted
      · exact RuleDraft.isValid_of_ofFilter? drafted
      · cases drafted
    · have unlisted : ∀ category ∈ [Category.whitelist, .blacklist],
          category.isListCategory = false := by decide
      rw [unlisted _ synthesized] at listed
      cases listed

/-! ## The matcher of a compilation -/

/-- Every rule of a compilation is loaded, but for those that are oversized.  Only a pattern that ignores
letter case can be that, and only one that a filter spells out. -/
structure Compilation.Loads (compilation : Compilation) : Prop where
  /-- Every pattern passes the check, those that were not checked as well. -/
  accepted : ∀ rule ∈ compilation.rules, FilterPattern.isValid rule.matchPattern
  rejected : (Matcher.ofRules compilation.rules).rejected =
    (compilation.rules.filter (·.isOversized)).map (·.id)
  loaded : (Matcher.ofRules compilation.rules).loaded.map (·.rule) =
    compilation.rules.filter (!·.isOversized)
  oversized : ∀ rule ∈ compilation.rules, rule.isOversized →
    rule.caseSensitive = false ∧ rule.category ∉ [.whitelist, .blacklist] ∧
      ∀ raw, FilterPattern.IsShortGlob raw → rule.matchPattern ≠ FilterPattern.translate raw

namespace Matcher

theorem rejected_ofRules {rules : List CompiledRule}
    (valid : ∀ rule ∈ rules, FilterPattern.isValid rule.matchPattern) :
    (ofRules rules).rejected = (rules.filter (·.isOversized)).map (·.id) := by
  have same : rules.filter (·.load?.isNone) = rules.filter (·.isOversized) :=
    List.filter_congr fun rule member => CompiledRule.isNone_load? (valid rule member)
  rw [ofRules, same]

theorem loaded_ofRules {rules : List CompiledRule}
    (valid : ∀ rule ∈ rules, FilterPattern.isValid rule.matchPattern) :
    (ofRules rules).loaded.map (·.rule) = rules.filter (!·.isOversized) := by
  show (rules.filterMap (·.load?)).map (·.rule) = _
  induction rules with
  | nil => rfl
  | cons rule rest ih =>
    obtain ⟨first, behind⟩ := List.forall_mem_cons.1 valid
    have size := CompiledRule.isNone_load? first
    cases found : rule.load? with
    | none =>
      rw [found] at size
      rw [List.filterMap_cons_none found, ih behind, List.filter_cons_of_neg (by simp [← size])]
    | some loaded =>
      rw [found] at size
      obtain ⟨regex, -, rfl⟩ := Option.map_eq_some_iff.1 found
      rw [List.filterMap_cons_some found, List.map_cons, ih behind,
        List.filter_cons_of_pos (by simp [← size])]

end Matcher

theorem Compilation.IsOf.loads {input : CompileInput} {config : CompilerConfig}
    {compilation : Compilation} (h : compilation.IsOf input config) : compilation.Loads := by
  have patterns : ∀ rule ∈ compilation.rules, FilterPattern.isValid rule.matchPattern ∧
      (rule.category ∈ [.whitelist, .blacklist] →
        (FilterPattern.load? rule.caseSensitive rule.matchPattern).isSome) := by
    intro rule member
    obtain ⟨draft, drafted, same⟩ := h.exists_draft member
    rw [same]
    exact CompileInput.pattern_of_mem_drafts drafted
  have accepted := fun rule member => (patterns rule member).1
  refine ⟨accepted, Matcher.rejected_ofRules accepted, Matcher.loaded_ofRules accepted, ?_⟩
  intro rule member oversized
  obtain ⟨valid, synthesized⟩ := patterns rule member
  have unloaded : ¬ (FilterPattern.load? rule.caseSensitive rule.matchPattern).isSome := fun loads => by
    rw [CompiledRule.isOversized_eq_false loads] at oversized
    cases oversized
  refine ⟨?_, fun own => unloaded (synthesized own), fun raw short same => unloaded ?_⟩
  · rw [Bool.eq_false_iff]
    intro counts
    apply unloaded
    rw [counts]
    exact FilterPattern.isSome_load?_of_isValid valid
  · rw [same]
    exact short.isSome_load? _

/-- Valid settings yield a compilation whose rules are loaded one and all, but for patterns that ignore
letter case and whose machines are then above the limit; if there are none, no rule is rejected. -/
theorem compile_loads (input : CompileInput) {config : CompilerConfig}
    (valid : config.validate = .ok ()) :
    ∃ compilation, compile input config = .ok compilation ∧ compilation.Loads ∧
      ((∀ rule ∈ compilation.rules, rule.isOversized = false) →
        (Matcher.ofRules compilation.rules).rejected = []) := by
  obtain ⟨compilation, compiled⟩ := exists_compile input valid
  have loads := (compile_inv compiled).loads
  refine ⟨compilation, compiled, loads, fun small => ?_⟩
  have none : compilation.rules.filter (·.isOversized) = [] :=
    List.filter_eq_nil_iff.2 fun rule member => by simp [small rule member]
  rw [loads.rejected, none]
  rfl

/-- Globs and expressions, with and without regard to letter case, from a list and from the user, and one
that is invalid. -/
def assortedInput : CompileInput where
  lists := [.ofText (.new "base" "https://lists.test/base" .ads)
    "://K.test/\n/ad[sk][0-9]+/\n/Banner(?i:x)/$match-case\n@@|https://b.test/*.js|\n/[a/" 1]
  customRules := [⟨1, "/(?:ads|Track)[.]/", .block, 1⟩]
  whitelist := ["b.test"]
  blacklist := ["Ads.test."]
  enabledCategories := [.ads]
  ruleBudget := none

theorem compile_loads_assorted :
    CompilerConfig.standard.validate = .ok () ∧
      ∃ compilation, compile assortedInput .standard = .ok compilation ∧
        compilation.rules.length = 7 ∧ (Matcher.ofRules compilation.rules).rejected = [] := by
  have valid : CompilerConfig.standard.validate = .ok () := rfl
  obtain ⟨compilation, compiled, -, small⟩ := compile_loads assortedInput valid
  have h := compile_inv compiled
  have emitted : (assortedInput.listEmission .standard).emission.rules.length = 7 ∧
      ∀ rule ∈ (assortedInput.listEmission .standard).emission.rules, rule.isOversized = false := by
    decide +kernel
  refine ⟨valid, compilation, compiled, h.perm_rules.length_eq.trans emitted.1, small ?_⟩
  exact fun rule member => emitted.2 rule (h.mem_rules.1 member)

end ContentFilter
