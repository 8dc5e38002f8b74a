import ContentFilter.Proofs.Filter.Reading

/-!
# The domains that a line names

A line of an ad-filter list can name domains in front of a cosmetic separator or in its options.  The
filter of such a line is restricted to domains that the line names, as long as one of them is not
excluded by the line as well.  Where none is left, a cosmetic line has no filter; but the filter of a
pattern loses its restriction, and applies wherever it is not excluded.
-/

namespace ContentFilter.Filter

/-- The tokens of the lists of domains on a line of an ad-filter list. -/
def domainTokens (line : List Char) : List (List Char) :=
  let line := Text.trim line
  match splitCosmetic? line with
  | some cosmetic => Text.splitOn ',' cosmetic.domains
  | none => if looksLikeHostsEntry line then [] else Options.domainTokens (optionClause line)

/-- The domains that a line names without negation. -/
def namedDomains (line : List Char) : List String :=
  (domainTokens line).filterMap Domain.included?

/-- The domains that a line names with a negation. -/
def barredDomains (line : List Char) : List String :=
  (domainTokens line).filterMap Domain.excluded?

/-- A filter that is restricted to domains among the given ones, and applies nowhere else. -/
structure StaysWithin (filter : Filter) (domains : List String) : Prop where
  restricted : filter.scope.includes ≠ []
  named : ∀ name ∈ filter.scope.includes, name ∈ domains
  applies : ∀ site, Domain.applies filter.scope.includes filter.scope.excludes site →
    ∃ name ∈ domains, Domain.matchesDomain site name

variable {line : List Char} {filter : Filter}

/-- The filter of a line has just the scope that the tokens of the line describe. -/
theorem isOf_domainTokens (member : filter ∈ (readLine .adblock line).filters) :
    filter.scope.IsOf (domainTokens line) := by
  unfold domainTokens
  dsimp only
  rcases mem_adblockLine_cases member with
    ⟨cosmetic, cut, read⟩ | ⟨uncut, hosts, entry⟩ | ⟨network, uncut, noHosts, read, rfl⟩
  · rw [cut]
    exact (cosmeticScope?_eq_some (CosmeticLine.cosmeticScope?_of_filter? read)).1
  · obtain ⟨_, _, _, -, rfl⟩ := exists_of_mem_hostsLine entry
    rw [uncut, if_pos hosts]
    exact Domain.Scope.isOf_everywhere
  · obtain ⟨options, _, parsed, -, -, same, -⟩ := networkOfLine?_eq_some read
    rw [uncut, noHosts]
    show network.scope.IsOf _
    rw [same]
    exact (Options.parse?_eq_some parsed).1

/-- A cosmetic line that is there to include a domain has no filter without a restriction. -/
theorem includes_ne_nil_of_splitCosmetic? (member : filter ∈ (readLine .adblock line).filters)
    (cosmetic : (splitCosmetic? (Text.trim line)).isSome)
    (named : ∃ token ∈ domainTokens line, Domain.isPlain token) : filter.scope.includes ≠ [] := by
  rcases mem_adblockLine_cases member with
    ⟨cosmetic, cut, read⟩ | ⟨uncut, -, -⟩ | ⟨-, uncut, -, -, -⟩
  · have listed : namesInclude cosmetic.domains := by
      rw [domainTokens, cut] at named
      exact List.any_eq_true.2 named
    exact (cosmeticScope?_eq_some (CosmeticLine.cosmeticScope?_of_filter? read)).2 listed
  · rw [uncut] at cosmetic
    cases cosmetic
  · rw [uncut] at cosmetic
    cases cosmetic

theorem mem_includes_iff (member : filter ∈ (readLine .adblock line).filters) {name : String} :
    name ∈ filter.scope.includes ↔ name ∈ namedDomains line ∧ name ∉ barredDomains line :=
  (isOf_domainTokens member).mem_includes name

/-- A restriction is enough to stay within the domains that are named. -/
theorem staysWithin_of_includes_ne_nil (member : filter ∈ (readLine .adblock line).filters)
    (restricted : filter.scope.includes ≠ []) : filter.StaysWithin (namedDomains line) := by
  have named : ∀ name ∈ filter.scope.includes, name ∈ namedDomains line :=
    fun name included => ((mem_includes_iff member).1 included).1
  refine ⟨restricted, named, fun site applies => ?_⟩
  rw [Domain.applies, Bool.and_eq_true, Bool.or_eq_true, List.isEmpty_iff, List.any_eq_true] at applies
  obtain ⟨name, included, covers⟩ := applies.1.resolve_left restricted
  exact ⟨name, named name included, covers⟩

/-- A line that is there to include domains names some, and its filter includes no others.  The filter
stays within them if it is cosmetic or if the line does not exclude all of them as well, and in no
other case. -/
theorem staysWithin_iff (member : filter ∈ (readLine .adblock line).filters)
    (named : ∃ token ∈ domainTokens line, Domain.isPlain token) :
    namedDomains line ≠ [] ∧ (∀ name ∈ filter.scope.includes, name ∈ namedDomains line) ∧
      (filter.StaysWithin (namedDomains line) ↔ (splitCosmetic? (Text.trim line)).isSome ∨
        ∃ name ∈ namedDomains line, name ∉ barredDomains line) := by
  refine ⟨?_, fun name included => ((mem_includes_iff member).1 included).1, ?_, ?_⟩
  · obtain ⟨token, among, plain⟩ := named
    obtain ⟨name, found⟩ := Option.isSome_iff_exists.1
      ((isOf_domainTokens member).valid token among plain)
    exact List.ne_nil_of_mem (List.mem_filterMap.2 ⟨token, among, found⟩)
  · intro within
    obtain ⟨name, included⟩ := List.exists_mem_of_ne_nil _ within.restricted
    exact .inr ⟨name, (mem_includes_iff member).1 included⟩
  · rintro (cosmetic | ⟨name, left⟩)
    · exact staysWithin_of_includes_ne_nil member
        (includes_ne_nil_of_splitCosmetic? member cosmetic named)
    · exact staysWithin_of_includes_ne_nil member
        (List.ne_nil_of_mem ((mem_includes_iff member).2 left))

/-- A line whose second option excludes one of the domains that the first one names. -/
def partlyCancelled : String := "||t.io^$domain=a.com|b.com,from=~A.com"

/-- A line that excludes the only domain that it names. -/
def cancelled : String := "||t.io^$domain=a.com|~a.com"

/-- The filter for the requests to a host in a scope, as it was read from a line. -/
def ofHostIn (scope : Domain.Scope) (sourceLine : String) : Filter := .network
  { pattern := "||t.io^"
    isException := false
    scope
    resourceTypes := none
    party := none
    important := false
    matchCase := false
    badfilter := false
    sourceLine }

theorem staysWithin_iff_partlyCancelled :
    ofHostIn ⟨["b.com"], ["a.com"]⟩ partlyCancelled ∈
        (readLine .adblock partlyCancelled.toList).filters ∧
      (∃ token ∈ domainTokens partlyCancelled.toList, Domain.isPlain token) ∧
      StaysWithin (ofHostIn ⟨["b.com"], ["a.com"]⟩ partlyCancelled)
        (namedDomains partlyCancelled.toList) := by
  have member : ofHostIn ⟨["b.com"], ["a.com"]⟩ partlyCancelled ∈
      (readLine .adblock partlyCancelled.toList).filters := by decide +kernel
  have named : ∃ token ∈ domainTokens partlyCancelled.toList, Domain.isPlain token := by
    decide +kernel
  have left : ∃ name ∈ namedDomains partlyCancelled.toList,
      name ∉ barredDomains partlyCancelled.toList := by decide +kernel
  exact ⟨member, named, (staysWithin_iff member named).2.2.2 (.inr left)⟩

/-- The filter of a line that cancels itself applies wherever it was not asked for. -/
theorem not_staysWithin_cancelled :
    (∃ token ∈ domainTokens cancelled.toList, Domain.isPlain token) ∧
      ofHostIn ⟨[], ["a.com"]⟩ cancelled ∈ (readLine .adblock cancelled.toList).filters ∧
      namedDomains cancelled.toList = ["a.com"] ∧ Domain.applies [] ["a.com"] "b.com" ∧
      ¬ StaysWithin (ofHostIn ⟨[], ["a.com"]⟩ cancelled) (namedDomains cancelled.toList) := by
  refine ⟨by decide +kernel, by decide +kernel, by decide +kernel, by decide +kernel, ?_⟩
  intro within
  exact within.restricted rfl

end ContentFilter.Filter
