import ContentFilter.CosmeticIndex
import ContentFilter.Proofs.Filter.Reading
import ContentFilter.Proofs.ResourceType.Names

/-!
# Well-formed filters

Every filter that was read from a text is well formed, whichever way it was read: its domains are in
normal form and its types are known, a pattern matches everything on some domains at most, and there is
something to hide or to run.
-/

namespace ContentFilter

/-- Whether the types that a filter names are all known. -/
def NetworkFilter.TypesKnown (filter : NetworkFilter) : Prop :=
  ∀ types, filter.resourceTypes = some types → types.Known

/-- A network filter whose pattern is a single word that does not match everything everywhere. -/
structure NetworkFilter.WellFormed (filter : NetworkFilter) : Prop where
  scope : filter.scope.WellFormed
  nonempty : filter.pattern ≠ ""
  unbroken : ∀ c ∈ filter.pattern.toList, Unicode.isWhiteSpace c = false
  /-- A bare host anchor is no pattern. -/
  notAnchor : filter.pattern ≠ "||"
  /-- What matches everything is restricted to some domains. -/
  restricted : filter.pattern = "*" → filter.scope.includes ≠ []
  typesKnown : filter.TypesKnown
  typesLeft : ∀ types, filter.resourceTypes = some types → types.isEmpty = false

/-- A filter that hides something. -/
structure ElementHideFilter.WellFormed (filter : ElementHideFilter) : Prop where
  scope : filter.scope.WellFormed
  nonempty : filter.selector ≠ ""
  trimmed : Text.trim filter.selector.toList = filter.selector.toList

/-- A filter that runs something, or an exception. -/
structure ScriptletFilter.WellFormed (filter : ScriptletFilter) : Prop where
  scope : filter.scope.WellFormed
  nonempty : filter.isException = false → filter.body ≠ ""

namespace Filter

/-- A filter that is well formed after its kind. -/
def WellFormed : Filter → Prop
  | .network filter => filter.WellFormed
  | .elementHide filter => filter.WellFormed
  | .scriptlet filter => filter.WellFormed

theorem WellFormed.scope_wellFormed {filter : Filter} (h : filter.WellFormed) :
    filter.scope.WellFormed := by
  cases filter with
  | network filter => exact NetworkFilter.WellFormed.scope h
  | elementHide filter => exact ElementHideFilter.WellFormed.scope h
  | scriptlet filter => exact ScriptletFilter.WellFormed.scope h

theorem ofList_ne {s : List Char} {text : String} (h : s ≠ text.toList) : String.ofList s ≠ text := by
  rintro rfl
  rw [String.toList_ofList] at h
  exact h rfl

/-! ## Network filters -/

/-- Options take known types away from known ones. -/
theorem Options.known_resourceTypes {options : Options} {types : ResourceTypes}
    (restricted : options.resourceTypes = some types) : types.Known := by
  unfold resourceTypes at restricted
  split at restricted
  · cases restricted
  · split at restricted
    · cases restricted
      exact ResourceTypes.known_without _ _
    · cases restricted
      exact ResourceTypes.known_without _ _

/-- A stored pattern is a word other than a bare anchor, and matches everything only in a scope. -/
theorem storedPattern?_eq_some {scope : Domain.Scope} {pattern stored : List Char}
    (h : storedPattern? scope pattern = some stored) :
    stored ≠ [] ∧ (∀ c ∈ stored, Unicode.isWhiteSpace c = false) ∧ stored ≠ ['|', '|'] ∧
      (stored = ['*'] → scope.includes ≠ []) := by
  unfold storedPattern? at h
  split at h
  · cases h
  · rename_i unbroken
    split at h
    · split at h
      · cases h
      · rename_i restricted
        cases h
        refine ⟨by decide, fun c member => ?_, by decide, fun _ empty => restricted ?_⟩
        · rw [List.mem_singleton.1 member]
          decide +kernel
        · rw [empty]
          rfl
    · rename_i some
      split at h
      · cases h
      · rename_i anchored
        cases h
        simp only [Bool.or_eq_true, List.isEmpty_iff, beq_iff_eq, not_or] at some anchored
        refine ⟨some.1, ?_, anchored, fun everything => absurd everything some.2⟩
        simpa using unbroken

theorem wellFormed_of_networkOfLine? {line : List Char} {filter : NetworkFilter}
    (read : networkOfLine? line = some filter) : filter.WellFormed := by
  obtain ⟨options, pattern, parsed, stored, text, scope, types⟩ := networkOfLine?_eq_some read
  obtain ⟨listed, left⟩ := Options.parse?_eq_some parsed
  obtain ⟨nonempty, unbroken, notAnchor, restricted⟩ := storedPattern?_eq_some stored
  constructor
  case scope => exact scope ▸ listed.wellFormed
  case nonempty => exact text ▸ ofList_ne nonempty
  case unbroken => rwa [text, String.toList_ofList]
  case notAnchor => exact text ▸ ofList_ne notAnchor
  case restricted =>
    intro everything
    rw [scope]
    apply restricted
    rw [← String.toList_ofList (l := pattern), ← text, everything]
    rfl
  case typesKnown =>
    intro named restricted
    exact Options.known_resourceTypes (types ▸ restricted)
  case typesLeft =>
    intro named restricted
    exact left named (types ▸ restricted)

theorem wellFormed_of_network? {text : String} {filter : NetworkFilter}
    (read : network? text = some filter) : filter.WellFormed :=
  wellFormed_of_networkOfLine? (networkOfLine?_of_network? read)

/-- The filter of a domain is well formed. -/
theorem wellFormed_hostFilter {host domain : String} (normal : Domain.normalize? host = some domain)
    (address word : List Char) : (hostFilter address word domain).WellFormed := by
  obtain ⟨nonempty, -, hosts, -⟩ := Domain.normalize?_eq_some normal
  have text : (hostFilter address word domain).pattern.toList =
      '|' :: '|' :: (domain.toList ++ ['^']) := by
    simp [hostFilter, String.toList_append]
  have other {pattern : String} (short : pattern.toList.length ≤ 2) :
      (hostFilter address word domain).pattern ≠ pattern := by
    rintro rfl
    rw [text] at short
    simp at short
  constructor
  case scope => exact Domain.Scope.isOf_everywhere.wellFormed
  case nonempty => exact other (by decide)
  case unbroken =>
    intro c member
    rw [text] at member
    simp only [List.mem_cons, List.mem_append, List.not_mem_nil, or_false] at member
    rcases member with rfl | rfl | among | rfl
    · decide +kernel
    · decide +kernel
    · exact Domain.isWhiteSpace_of_isHostChar (hosts c among)
    · decide +kernel
  case notAnchor => exact other (by decide)
  case restricted => exact fun everything => absurd everything (other (by decide))
  case typesKnown =>
    intro types restricted
    cases restricted
  case typesLeft =>
    intro types restricted
    cases restricted

theorem wellFormed_of_mem_hostsLine {line : List Char} {filter : Filter}
    (member : filter ∈ (hostsLine line).filters) : filter.WellFormed := by
  obtain ⟨address, word, domain, normal, rfl⟩ := exists_of_mem_hostsLine member
  exact wellFormed_hostFilter normal address word

/-! ## Cosmetic filters -/

theorem CosmeticLine.wellFormed_of_filter? {line : CosmeticLine} {filter : Filter}
    (read : line.filter? = some filter) : filter.WellFormed := by
  obtain ⟨scope, found, kinds⟩ := CosmeticLine.filter?_eq_some read
  have normal := (cosmeticScope?_eq_some found).1.wellFormed
  rcases kinds with ⟨body, isException, rfl, filled⟩ | ⟨isException, filled, rfl⟩
  · refine ⟨normal, fun plain => ofList_ne fun empty => ?_⟩
    rw [filled empty] at plain
    cases plain
  · refine ⟨normal, ofList_ne filled, ?_⟩
    rw [String.toList_ofList, Text.trim_trim]

/-! ## Whole texts -/

theorem wellFormed_of_mem_readLine {format : ListFormat} {line : List Char} {filter : Filter}
    (member : filter ∈ (readLine format line).filters) : filter.WellFormed := by
  unfold readLine at member
  cases format with
  | hosts => exact wellFormed_of_mem_hostsLine member
  | adblock =>
    rcases mem_adblockLine_cases member with
      ⟨cosmetic, -, read⟩ | ⟨-, -, hosts⟩ | ⟨network, -, -, read, rfl⟩
    · exact CosmeticLine.wellFormed_of_filter? read
    · exact wellFormed_of_mem_hostsLine hosts
    · exact wellFormed_of_networkOfLine? read

/-- The filters of a list are well formed. -/
theorem wellFormed_of_mem_ofText {format : ListFormat} {text : String} {filter : Filter}
    (member : filter ∈ (ParsedList.ofText format text).filters) : filter.WellFormed := by
  obtain ⟨line, among⟩ := exists_line_of_mem_ofText member
  exact wellFormed_of_mem_readLine among

/-- The cosmetic filters of a list name domains in normal form. -/
theorem isNormal_of_mem_ofText {format : ListFormat} {text : String} {filter : Filter}
    (member : filter ∈ (ParsedList.ofText format text).filters) {entry : CosmeticEntry}
    (cosmetic : filter.toCosmetic? = some entry) : entry.scope.IsNormal := by
  have normal := (wellFormed_of_mem_ofText member).scope_wellFormed.normal
  cases filter with
  | network filter => cases cosmetic
  | elementHide filter | scriptlet filter =>
    cases cosmetic
    exact fun name named => ⟨name, normal name named⟩

end Filter

/-- The filter of a custom rule is well formed: its action and its line have no say in it. -/
theorem CustomRule.wellFormed_of_toFilter? {rule : CustomRule} {filter : NetworkFilter}
    (read : rule.toFilter? = some filter) : filter.WellFormed := by
  unfold CustomRule.toFilter? at read
  obtain ⟨network, accepted, rfl⟩ := Option.map_eq_some_iff.1 read
  obtain ⟨scope, nonempty, unbroken, notAnchor, restricted, typesKnown, typesLeft⟩ :=
    Filter.wellFormed_of_network? accepted
  exact ⟨scope, nonempty, unbroken, notAnchor, restricted, typesKnown, typesLeft⟩

/-- Whatever is read is well formed: the filters of lists, filters that stand alone, and those of custom
rules. -/
theorem readings_wellFormed :
    (∀ format text, ∀ filter ∈ (ParsedList.ofText format text).filters, filter.WellFormed) ∧
      (∀ text filter, Filter.network? text = some filter → filter.WellFormed) ∧
      ∀ (rule : CustomRule) filter, rule.toFilter? = some filter → filter.WellFormed := by
  refine ⟨?_, ?_, ?_⟩
  · intro format text filter member
    exact Filter.wellFormed_of_mem_ofText member
  · intro text filter read
    exact Filter.wellFormed_of_network? read
  · intro rule filter read
    exact CustomRule.wellFormed_of_toFilter? read

/-- Blocks the scripts of a host on the pages of one domain, without those of another. -/
def scopedFilter : NetworkFilter where
  pattern := "||a.io^"
  isException := false
  scope := ⟨["b.io"], ["c.io"]⟩
  resourceTypes := some (.only .script)
  party := none
  important := false
  matchCase := false
  badfilter := false
  sourceLine := "||a.io^$domain=b.io|~c.io,script"

theorem readings_wellFormed_scopedFilter :
    (.elementHide ⟨".ad", ⟨["b.io"], ["c.io"]⟩, false⟩ ∈
        (ParsedList.ofText .adblock "B.io,~c.io## .ad ").filters ∧
      Filter.WellFormed (.elementHide ⟨".ad", ⟨["b.io"], ["c.io"]⟩, false⟩)) ∧
    (Filter.network? scopedFilter.sourceLine = some scopedFilter ∧ scopedFilter.WellFormed) ∧
    (CustomRule.toFilter? ⟨1, scopedFilter.sourceLine, .block, 0⟩ = some scopedFilter ∧
      scopedFilter.WellFormed) := by
  have listed : .elementHide ⟨".ad", ⟨["b.io"], ["c.io"]⟩, false⟩ ∈
      (ParsedList.ofText .adblock "B.io,~c.io## .ad ").filters := by decide +kernel
  have single : Filter.network? scopedFilter.sourceLine = some scopedFilter := by decide +kernel
  have custom : CustomRule.toFilter? ⟨1, scopedFilter.sourceLine, .block, 0⟩ = some scopedFilter := by
    decide +kernel
  exact ⟨⟨listed, readings_wellFormed.1 _ _ _ listed⟩, ⟨single, readings_wellFormed.2.1 _ _ single⟩,
    custom, readings_wellFormed.2.2 _ _ custom⟩

end ContentFilter
