import ContentFilter.Proofs.Compilation.ByCategory
import ContentFilter.Proofs.Compilation.Precedence
import ContentFilter.Proofs.FilterPattern.HostAnchor
import ContentFilter.ResourceType.Lemmas

/-!
# Blacklisted domains

A blacklisted domain is blocked with its subdomains, whatever lists except: but only for navigations and
for requests of the default types.  On requests of other types its rule has no say, and what is decided
on them is decided by the other rules.
-/

namespace ContentFilter

/-! ## Addresses of a domain -/

/-- A URL to a domain or a subdomain of it: a scheme of the web, the host, a port or none, and then a
path, a query or a fragment, or nothing. -/
def Url.GoesTo (domain url : String) : Prop :=
  ∃ scheme ∈ ["http", "https", "ws", "wss"], ∃ host port rest : List Char,
    url.toList = scheme.toList ++ "://".toList ++ host ++ port ++ rest ∧
    (∀ c ∈ host, c ∉ ['/', '?', '#', '@', ':']) ∧ host.getLast? ≠ some '.' ∧
    Domain.matchesDomain (String.ofList host) domain ∧
    (port = [] ∨ ∃ digits, port = ':' :: digits ∧ ∀ c ∈ digits, c.isDigit) ∧
    ∀ c ∈ rest.head?, Url.endsAuthority c

namespace Glob

/-- The schemes of the web are made of letters. -/
theorem isScheme_of_mem {scheme : String} (member : scheme ∈ ["http", "https", "ws", "wss"]) :
    IsScheme false (scheme.toList ++ "://".toList) := by
  simp only [List.mem_cons, List.not_mem_nil, or_false] at member
  rcases member with rfl | rfl | rfl | rfl
  all_goals exact isScheme_of_isAlpha (by decide) (List.all_eq_true.1 (by decide))

/-- What is of ASCII in small letters is of ASCII. -/
theorem ascii_of_lower {text : List Char} (ascii : ∀ c ∈ Text.lower text, c.toNat < 128) :
    ∀ c ∈ text, c.toNat < 128 := by
  intro c member
  by_contra beyond
  have small : c.toLower ∈ Text.lower text := List.mem_map_of_mem member
  rw [Domain.toLower_eq_self_of_not_ascii beyond] at small
  exact beyond (ascii c small)

/-- The glob of a normal domain matches the URLs to it. -/
theorem matches_of_goesTo {domain url : String} (normal : Domain.normalize? domain = some domain)
    (goes : Url.GoesTo domain url) : (ofName domain.toList).Matches false url.toList := by
  obtain ⟨scheme, isScheme, host, port, rest, whole, free, undotted, isHost, isPort, ends⟩ := goes
  obtain ⟨-, -, hosts, small⟩ := Domain.normalize?_eq_some normal
  have ascii : ∀ c ∈ domain.toList, c.toNat < 128 := fun c member =>
    Domain.ascii_of_isHostChar (hosts c member)
  rw [Domain.matchesDomain_iff, String.toList_ofList, Domain.trimEndDots_eq_self undotted] at isHost
  obtain ⟨-, front, tail, rfl, same, boundary⟩ := isHost
  rw [matches_ofName]
  refine ⟨scheme.toList ++ "://".toList ++ front, tail, port ++ rest, ?_, ?_, ?_, ?_⟩
  · rw [whole]
    simp
  · refine ⟨_, front, rfl, .inr (isScheme_of_mem isScheme), boundary.imp_right fun dot => ?_⟩
    obtain ⟨inside, rfl⟩ := List.getLast?_eq_some_iff.1 dot
    refine ⟨inside, rfl, fun c member => ?_⟩
    have outside := free c (by simp [member])
    simp_all
  · rw [small] at same
    have tailAscii := ascii_of_lower (same ▸ ascii)
    rw [forall₂_accepts_iff ascii tailAscii, same, small]
  · intro c first
    rcases isPort with rfl | ⟨digits, rfl, -⟩
    · have atEnd := ends c first
      simp only [Url.endsAuthority, Bool.or_eq_true, beq_iff_eq] at atEnd
      refine isSeparator_of_mem ?_
      rcases atEnd with (rfl | rfl) | rfl <;> decide
    · obtain rfl := Option.some.inj first
      exact isSeparator_of_mem (by decide)

end Glob

/-- The pattern of a blacklisted domain fits the URLs to it. -/
theorem Request.fits_of_goesTo {request : Request} {domain : String}
    (normal : Domain.normalize? domain = some domain) (goes : Url.GoesTo domain request.url) :
    request.fits false ("||" ++ domain ++ "^") := by
  rw [fits, FilterPattern.load?_ofName normal, Option.any_some, Glob.isMatch_toRegex]
  exact Glob.matches_of_goesTo normal goes

/-! ## Tiers and categories -/

theorem RuleDraft.tier_of_ofFilter? {config : CompilerConfig} {category : Category}
    {tier : PriorityTier} {filter : NetworkFilter} {draft : RuleDraft}
    (h : ofFilter? config category tier filter = some draft) : draft.tier = tier := by
  unfold ofFilter? at h
  dsimp only at h
  split at h
  · cases h
    rfl
  · cases h

/-- What goes before a blacklisted domain is a whitelisted site or a custom rule; all else but the
blacklist itself stands below it. -/
theorem CompileInput.tier_of_mem_drafts {input : CompileInput} {config : CompilerConfig}
    {draft : RuleDraft} (member : draft ∈ input.drafts config) :
    (draft.category = .whitelist ∧ draft.tier = .whitelist) ∨
    (draft.category = .blacklist ∧ draft.tier = .blacklist) ∨
    (draft.category = .custom ∧ draft.tier ∈ [.customBlock, .customAllow]) ∨
    (draft.category.isListCategory ∧ draft.tier ∈ [.listBlock, .listImportant, .listException]) := by
  rcases mem_drafts.1 member with
    ⟨entry, -, drafted⟩ | ⟨entry, -, drafted⟩ | ⟨rule, -, drafted⟩ | ⟨sourced, kept, drafted⟩
  · obtain ⟨domain, -, rfl⟩ := Option.map_eq_some_iff.1 drafted
    exact .inl ⟨rfl, rfl⟩
  · obtain ⟨domain, -, rfl⟩ := Option.map_eq_some_iff.1 drafted
    exact .inr (.inl ⟨rfl, rfl⟩)
  · rw [RuleDraft.ofCustomRule?, Option.bind_eq_bind, Option.bind_eq_some_iff] at drafted
    obtain ⟨filter, -, drafted⟩ := drafted
    refine .inr (.inr (.inl ⟨RuleDraft.category_of_ofFilter? drafted, ?_⟩))
    rw [RuleDraft.tier_of_ofFilter? drafted]
    cases filter.isException <;> decide
  · refine .inr (.inr (.inr ⟨?_, ?_⟩))
    · rw [SourcedFilter.category_of_draft? drafted]
      exact isListCategory_of_mem_kept kept
    · unfold SourcedFilter.draft? at drafted
      split at drafted
      · rename_i filter _
        rw [RuleDraft.tier_of_ofFilter? drafted, PriorityTier.ofListFilter]
        cases filter.isException <;> cases filter.important <;> decide
      · cases drafted

/-- The rules of the blacklist are for the default types and for navigations. -/
theorem CompileInput.resourceTypes_of_blacklist {input : CompileInput} {config : CompilerConfig}
    {draft : RuleDraft} (member : draft ∈ input.drafts config) (kind : draft.category = .blacklist) :
    draft.resourceTypes = config.defaultTypes.union (.only .mainFrame) := by
  have among : draft ∈ input.draftsOf config .blacklist :=
    List.mem_filter.2 ⟨member, beq_iff_eq.2 kind⟩
  rw [draftsOf_blacklist] at among
  obtain ⟨entry, -, drafted⟩ := List.mem_filterMap.1 among
  obtain ⟨domain, -, rfl⟩ := Option.map_eq_some_iff.1 drafted
  rfl

/-! ## The verdict on blacklisted domains -/

/-- Whether a rule goes before those of the blacklist to allow a request: one of the whitelist, or a
custom one that allows. -/
def CompiledRule.spares (rule : CompiledRule) : Bool :=
  rule.category == .whitelist || (rule.category == .custom && rule.action == .allow)

/-- A rule for a set of types matches only requests of types in the set. -/
theorem CompiledRule.intersects_of_matchesRequest {rule : CompiledRule} {types : ResourceTypes}
    {request : Request} (restricted : rule.resourceTypes = some types)
    (found : rule.matchesRequest request) : types.intersects request.types := by
  simp only [matchesRequest, conditionHolds, restricted, Option.all_some, Bool.and_eq_true] at found
  exact found.1.1.1.1

namespace Compilation

variable {compilation : Compilation} {input : CompileInput} {config : CompilerConfig}
  {domain : String}

/-- Where a rule of the blacklist matches, nothing but a rule that spares the request lets it pass. -/
theorem IsOf.block_of_blacklist (h : compilation.IsOf input config) {request : Request}
    {rule : CompiledRule} (member : rule ∈ compilation.rules) (kind : rule.category = .blacklist)
    (found : rule.matchesRequest request)
    (unspared : ∀ other ∈ compilation.rules, other.matchesRequest request → other.spares = false) :
    ((Matcher.ofRules compilation.rules).decide request).decision = .block := by
  have priority : rule.priority = PriorityTier.blacklist.priority := by
    obtain ⟨draft, drafted, same⟩ := h.exists_draft member
    rw [same] at kind ⊢
    show draft.tier.priority = _
    rcases CompileInput.tier_of_mem_drafts drafted with
      ⟨other, -⟩ | ⟨-, tier⟩ | ⟨other, -⟩ | ⟨listed, -⟩
    · cases other.symm.trans kind
    · rw [tier]
    · cases other.symm.trans kind
    · rw [show draft.category = .blacklist from kind] at listed
      cases listed
  have candidate := Matcher.mem_candidates_ofRules.2 ⟨member, found⟩
  unfold Matcher.decide
  rcases best : Matcher.best? ((Matcher.ofRules compilation.rules).candidates request) with _ | first
  · rw [Matcher.best?_eq_none_iff.1 best] at candidate
    cases candidate
  · obtain ⟨firstCandidate, highest⟩ := Matcher.best?_eq_some best
    obtain ⟨among, matching⟩ := Matcher.mem_candidates_ofRules.1 firstCandidate
    have above := CompiledRule.priority_le_of_rank_le (highest rule candidate)
    rw [priority] at above
    have stays := unspared first among matching
    obtain ⟨draft, drafted, same⟩ := h.exists_draft among
    show first.action = .block
    rw [same] at stays above ⊢
    show draft.tier.action = .block
    rcases CompileInput.tier_of_mem_drafts drafted with
      ⟨white, -⟩ | ⟨-, tier⟩ | ⟨custom, tier⟩ | ⟨-, tier⟩
    · simp [CompiledRule.spares, RuleDraft.toRule, white] at stays
    · rw [tier]
      rfl
    · cases action : draft.tier.action with
      | block => rfl
      | allow => simp [CompiledRule.spares, RuleDraft.toRule, custom, action] at stays
    · -- no tier of lists reaches that of the blacklist
      have below : ∀ tier ∈ [PriorityTier.listBlock, .listImportant, .listException],
          tier.priority < PriorityTier.blacklist.priority := by decide
      exact absurd above (Nat.not_le_of_lt (below draft.tier tier))

/-- Where no rule of the blacklist matches, the others decide. -/
theorem decide_without_blacklist {rules : List CompiledRule} {request : Request}
    (unmatched : ∀ rule ∈ rules, rule.category = .blacklist → rule.matchesRequest request = false) :
    (Matcher.ofRules rules).decide request =
      (Matcher.ofRules (rules.filter (·.category != .blacklist))).decide request := by
  have same : (Matcher.ofRules (rules.filter (·.category != .blacklist))).candidates request =
      (Matcher.ofRules rules).candidates request := by
    rw [Matcher.candidates_ofRules, Matcher.candidates_ofRules, List.filter_filter]
    apply List.filter_congr
    intro rule member
    by_cases kind : rule.category = .blacklist
    · rw [unmatched rule member kind, Bool.false_and]
    · rw [bne_iff_ne.2 kind, Bool.and_true]
  rw [Matcher.decide, Matcher.decide, same]

/-- A domain of the blacklist that got an id for its rule. -/
def Blacklists (compilation : Compilation) (input : CompileInput) (config : CompilerConfig)
    (domain : String) : Prop :=
  ∃ entry ∈ input.blacklist, Domain.normalize? entry = some domain ∧
    ∃ draft, RuleDraft.ofBlacklist? config entry = some draft ∧
      ∃ id, draft.toRule id ∈ compilation.rules

/-- The types of requests for which the blacklist is in force. -/
theorem contains_blacklistTypes (config : CompilerConfig) (type : ResourceType) :
    (config.defaultTypes.union (.only .mainFrame)).intersects (.only type) ↔
      type = .mainFrame ∨ config.defaultTypes.contains type := by
  rw [ResourceTypes.intersects_only, ResourceTypes.contains_union, ResourceTypes.contains_only,
    Bool.or_eq_true, beq_iff_eq, or_comm, eq_comm]

/-- The rule of a blacklisted domain matches the requests to it for which the blacklist is in force. -/
theorem Blacklists.exists_rule (blacklisted : compilation.Blacklists input config domain)
    (request : Request) (goes : Url.GoesTo domain request.url)
    (inForce : (config.defaultTypes.union (.only .mainFrame)).intersects request.types) :
    ∃ rule ∈ compilation.rules, rule.category = .blacklist ∧ rule.matchesRequest request := by
  obtain ⟨entry, -, normal, draft, drafted, id, member⟩ := blacklisted
  refine ⟨draft.toRule id, member, CompileInput.category_of_ofBlacklist? config drafted, ?_⟩
  rcases RuleDraft.ofBlacklist?_cases config entry with
    ⟨none, -⟩ | ⟨other, twin, same, twinDrafted, realizes⟩
  · rw [normal] at none
    cases none
  · obtain rfl : domain = other := Option.some.inj (normal.symm.trans same)
    obtain rfl : draft = twin := Option.some.inj (drafted.symm.trans twinDrafted)
    rw [RuleDraft.matchesRequest_toRule, realizes.matches_iff, SourceRule.applies, inForce,
      Request.fits_of_goesTo (Domain.normalize?_of_normalize? normal) goes]
    rfl

/-- No rule of the blacklist matches a request for which the blacklist is not in force. -/
theorem IsOf.unmatched (h : compilation.IsOf input config) (request : Request)
    (outOfForce : ¬ (config.defaultTypes.union (.only .mainFrame)).intersects request.types) :
    ∀ rule ∈ compilation.rules, rule.category = .blacklist →
      rule.matchesRequest request = false := by
  intro rule member kind
  obtain ⟨draft, drafted, same⟩ := h.exists_draft member
  rw [Bool.eq_false_iff]
  intro found
  rw [same] at kind found
  have types := CompileInput.resourceTypes_of_blacklist drafted kind
  refine outOfForce (CompiledRule.intersects_of_matchesRequest ?_ found)
  rw [← types]
  rfl

end Compilation

/-- Valid settings yield a compilation that blocks a blacklisted domain, with an id for its rule, just
where the request is a navigation, or of a default type, or blocked by a rule of another category: if
neither a rule of the whitelist nor a custom one spares the request. -/
theorem decide_blacklisted_iff (input : CompileInput) {config : CompilerConfig}
    (valid : config.validate = .ok ()) :
    ∃ compilation, compile input config = .ok compilation ∧
      ∀ domain, compilation.Blacklists input config domain →
      ∀ url initiator type, Url.GoesTo domain url →
        (∀ rule ∈ compilation.rules, rule.matchesRequest ⟨url, .only type, initiator⟩ →
          rule.spares = false) →
        (((Matcher.ofRules compilation.rules).decide ⟨url, .only type, initiator⟩).decision =
            .block ↔
          type = .mainFrame ∨ config.defaultTypes.contains type ∨
            ((Matcher.ofRules (compilation.rules.filter (·.category != .blacklist))).decide
              ⟨url, .only type, initiator⟩).decision = .block) := by
  obtain ⟨compilation, compiled⟩ := exists_compile input valid
  have h := compile_inv compiled
  refine ⟨compilation, compiled, ?_⟩
  intro domain blacklisted url initiator type goes unspared
  rw [← or_assoc, ← Compilation.contains_blacklistTypes]
  by_cases inForce : (config.defaultTypes.union (.only .mainFrame)).intersects (.only type)
  · obtain ⟨rule, member, kind, found⟩ :=
      blacklisted.exists_rule ⟨url, .only type, initiator⟩ goes inForce
    have blocked := h.block_of_blacklist member kind found unspared
    exact iff_of_true blocked (.inl inForce)
  · have unmatched := h.unmatched ⟨url, .only type, initiator⟩ inForce
    rw [Compilation.decide_without_blacklist unmatched]
    exact (or_iff_right inForce).symm

/-- A user who blocks a domain, and no list. -/
def blockingInput : CompileInput where
  lists := []
  customRules := []
  whitelist := []
  blacklist := ["ads.test"]
  enabledCategories := [.ads]
  ruleBudget := none

/-- A request to the domain for a socket. -/
def socketRequest : Request := ⟨"wss://ads.test/", .only .webSocket, none⟩

theorem goesTo_socketRequest : Url.GoesTo "ads.test" socketRequest.url := by
  refine ⟨"wss", by decide, "ads.test".toList, [], ['/'], rfl, ?_, by decide, by decide +kernel,
    .inl rfl, ?_⟩
  · simp
  · rintro _ ⟨⟩
    rfl

theorem Compilation.IsOf.blacklists_socketRequest {compilation : Compilation}
    (h : compilation.IsOf blockingInput .standard) :
    compilation.Blacklists blockingInput .standard "ads.test" ∧
      ∀ rule ∈ compilation.rules, rule.spares = false ∧ rule.matchesRequest socketRequest = false := by
  have emitted : (RuleDraft.ofBlacklist? .standard "ads.test").any (fun draft =>
      draft.toRule 35000 ∈ (blockingInput.listEmission .standard).emission.rules) ∧
      ∀ rule ∈ (blockingInput.listEmission .standard).emission.rules,
        rule.spares = false ∧ rule.matchesRequest socketRequest = false := by
    decide +kernel
  obtain ⟨given, unmatched⟩ := emitted
  obtain ⟨draft, drafted, among⟩ := (Option.any_eq_true _ _).1 given
  refine ⟨⟨"ads.test", by decide, by decide +kernel, draft, drafted, 35000, ?_⟩, ?_⟩
  · exact h.mem_rules.2 (of_decide_eq_true among)
  · intro rule member
    exact unmatched rule (h.mem_rules.1 member)

/-- The default types do not take in sockets, and no other rule blocks the request. -/
theorem decide_blacklisted_iff_socketRequest :
    CompilerConfig.standard.validate = .ok () ∧
      ∃ compilation, compile blockingInput .standard = .ok compilation ∧
        compilation.Blacklists blockingInput .standard "ads.test" ∧
        Url.GoesTo "ads.test" socketRequest.url ∧
        (∀ rule ∈ compilation.rules, rule.matchesRequest socketRequest → rule.spares = false) ∧
        (((Matcher.ofRules compilation.rules).decide socketRequest).decision = .block ↔
          ResourceType.webSocket = .mainFrame ∨
            CompilerConfig.standard.defaultTypes.contains .webSocket ∨
            ((Matcher.ofRules (compilation.rules.filter (·.category != .blacklist))).decide
              socketRequest).decision = .block) := by
  have valid : CompilerConfig.standard.validate = .ok () := rfl
  obtain ⟨compilation, compiled, blocked⟩ := decide_blacklisted_iff blockingInput valid
  obtain ⟨blacklisted, rules⟩ := (compile_inv compiled).blacklists_socketRequest
  have unspared : ∀ rule ∈ compilation.rules, rule.matchesRequest socketRequest →
      rule.spares = false := fun rule member _ => (rules rule member).1
  exact ⟨valid, compilation, compiled, blacklisted, goesTo_socketRequest, unspared,
    blocked _ blacklisted _ none .webSocket goesTo_socketRequest unspared⟩

/-- So a blacklisted domain is reached. -/
theorem decide_blacklisted_ne_block_socketRequest :
    ∃ compilation, compile blockingInput .standard = .ok compilation ∧
      compilation.Blacklists blockingInput .standard "ads.test" ∧
      Url.GoesTo "ads.test" socketRequest.url ∧
      (∀ rule ∈ compilation.rules, rule.matchesRequest socketRequest → rule.spares = false) ∧
      ((Matcher.ofRules compilation.rules).decide socketRequest).decision ≠ .block := by
  have valid : CompilerConfig.standard.validate = .ok () := rfl
  obtain ⟨compilation, compiled⟩ := exists_compile blockingInput valid
  obtain ⟨blacklisted, rules⟩ := (compile_inv compiled).blacklists_socketRequest
  refine ⟨compilation, compiled, blacklisted, goesTo_socketRequest,
    fun rule member _ => (rules rule member).1, ?_⟩
  have none : (Matcher.ofRules compilation.rules).candidates socketRequest = [] := by
    rw [Matcher.candidates_ofRules, List.filter_eq_nil_iff]
    intro rule member
    rw [(rules rule member).2]
    exact Bool.false_ne_true
  rw [Matcher.decide, none]
  decide

end ContentFilter
