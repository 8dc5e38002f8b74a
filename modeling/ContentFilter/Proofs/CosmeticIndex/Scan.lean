import ContentFilter.CosmeticIndex.Lemmas
import ContentFilter.Optimizer.Lemmas
import ContentFilter.Proofs.Compilation.Emission
import ContentFilter.Proofs.Filter.WellFormed
import ContentFilter.Proofs.Text.Bytes

/-!
# The cosmetic index and a plain scan

What the index of a compilation answers for a page is what a scan over all filters of the lists that
take part finds.  Neither the order of the lists nor repeated filters, and nothing that concerns rules
with ids, has a part in it.
-/

namespace ContentFilter

/-- A list whose filters were read from a text. -/
def CachedList.IsRead (cached : CachedList) : Prop :=
  ∃ list text fetchedAt, cached.filters = (CachedList.ofText list text fetchedAt).filters

namespace CompileInput

/-- A list that takes part holds the filter. -/
def Offers (input : CompileInput) (filter : Filter) : Prop :=
  ∃ cached ∈ input.lists, cached.isIncluded input.enabledCategories ∧ filter ∈ cached.filters

/-- A filter that hides a selector, or an exception from one, applies on a domain. -/
def Hides (input : CompileInput) (isException : Bool) (domain selector : String) : Prop :=
  ∃ filter : ElementHideFilter, input.Offers (.elementHide filter) ∧
    filter.isException = isException ∧ filter.selector = selector ∧
    Domain.applies filter.scope.includes filter.scope.excludes domain

/-- A filter that runs a script, or an exception from one, applies on a domain. -/
def Runs (input : CompileInput) (isException : Bool) (domain body : String) : Prop :=
  ∃ filter : ScriptletFilter, input.Offers (.scriptlet filter) ∧
    filter.isException = isException ∧ filter.body = body ∧
    Domain.applies filter.scope.includes filter.scope.excludes domain

end CompileInput

/-- What a scan finds for a query: the bodies that apply on its domain and that no exception takes
away, in the order of their bytes and none of them twice. -/
structure IsScan (applies : Bool → String → String → Prop) (query : String) (answer : List String) :
    Prop where
  ordered : answer.Pairwise fun a b => Text.bytes a < Text.bytes b
  mem_iff : ∀ body, body ∈ answer ↔ ∃ domain, Domain.normalize? query = some domain ∧
    applies false domain body ∧ ¬ applies true domain body
  refused : Domain.normalize? query = none → answer = []

namespace IsScan

variable {applies applies' : Bool → String → String → Prop} {query : String}
  {answer answer' : List String}

theorem congr (scan : IsScan applies query answer)
    (same : ∀ isException domain body,
      applies isException domain body ↔ applies' isException domain body) :
    IsScan applies' query answer := by
  refine ⟨scan.ordered, fun body => ?_, scan.refused⟩
  rw [scan.mem_iff body]
  simp only [same]

/-- There is only one answer. -/
theorem unique (scan : IsScan applies query answer) (scan' : IsScan applies query answer') :
    answer = answer' := by
  have once : ∀ {items : List String},
      items.Pairwise (fun a b => Text.bytes a < Text.bytes b) → items.Nodup := by
    intro items ordered
    refine ordered.imp fun below same => ?_
    rw [same] at below
    exact List.lt_irrefl _ below
  have members : answer.Perm answer' := by
    rw [List.perm_ext_iff_of_nodup (once scan.ordered) (once scan'.ordered)]
    intro body
    rw [scan.mem_iff, scan'.mem_iff]
  refine members.eq_of_pairwise ?_ scan.ordered scan'.ordered
  intro a b _ _ below above
  exact absurd (List.lt_trans below above) (List.lt_irrefl _)

end IsScan

namespace CompileInput

variable {input : CompileInput}

theorem exists_sourced_iff {filter : Filter} :
    (∃ sourced ∈ input.sourcedFilters, sourced.filter = filter) ↔ input.Offers filter := by
  simp only [sourcedFilters, includedLists, List.mem_flatMap, List.mem_filter, List.mem_map]
  constructor
  · rintro ⟨_, ⟨⟨cached, index⟩, ⟨indexed, included⟩, other, among, rfl⟩, rfl⟩
    have placed := List.mk_mem_zipIdx_iff_getElem?.1 indexed
    exact ⟨cached, List.mem_of_getElem? placed, included, among⟩
  · rintro ⟨cached, member, included, among⟩
    obtain ⟨index, placed⟩ := List.mem_iff_getElem?.1 member
    have indexed : (cached, index) ∈ input.lists.zipIdx := List.mk_mem_zipIdx_iff_getElem?.2 placed
    exact ⟨_, ⟨(cached, index), ⟨indexed, included⟩, filter, among, rfl⟩, rfl⟩

/-- The entries that are indexed. -/
def cosmeticEntries (input : CompileInput) : List CosmeticEntry :=
  (Optimizer.optimize input.sourcedFilters).kept.filterMap (·.filter.toCosmetic?)

/-- The optimizer loses no cosmetic filter. -/
theorem mem_cosmeticEntries {entry : CosmeticEntry} :
    entry ∈ input.cosmeticEntries ↔
      ∃ filter, input.Offers filter ∧ filter.toCosmetic? = some entry := by
  have kept : ∀ {filter : Filter}, filter.toCosmetic? = some entry →
      ((∃ sourced ∈ (Optimizer.optimize input.sourcedFilters).kept, sourced.filter = filter) ↔
        input.Offers filter) := by
    intro filter cosmetic
    rw [← exists_sourced_iff]
    apply Optimizer.exists_mem_kept_iff_of_cosmetic
    cases filter with
    | network network => cases cosmetic
    | elementHide => rfl
    | scriptlet => rfl
  rw [cosmeticEntries, List.mem_filterMap]
  constructor
  · rintro ⟨sourced, member, cosmetic⟩
    exact ⟨sourced.filter, (kept cosmetic).1 ⟨sourced, member, rfl⟩, cosmetic⟩
  · rintro ⟨filter, offered, cosmetic⟩
    obtain ⟨sourced, member, rfl⟩ := (kept cosmetic).2 offered
    exact ⟨sourced, member, cosmetic⟩

/-- Selectors are indexed from filters that hide. -/
theorem exists_elementHide {entry : CosmeticEntry} (member : entry ∈ input.cosmeticEntries)
    (kind : entry.kind = .selector) :
    ∃ filter : ElementHideFilter, input.Offers (.elementHide filter) ∧
      (Filter.elementHide filter).toCosmetic? = some entry := by
  obtain ⟨filter, offered, cosmetic⟩ := mem_cosmeticEntries.1 member
  cases filter with
  | network network => cases cosmetic
  | elementHide filter => exact ⟨filter, offered, cosmetic⟩
  | scriptlet filter =>
    cases cosmetic
    cases kind

/-- Scripts are indexed from filters that run them. -/
theorem exists_scriptlet {entry : CosmeticEntry} (member : entry ∈ input.cosmeticEntries)
    (kind : entry.kind = .scriptlet) :
    ∃ filter : ScriptletFilter, input.Offers (.scriptlet filter) ∧
      (Filter.scriptlet filter).toCosmetic? = some entry := by
  obtain ⟨filter, offered, cosmetic⟩ := mem_cosmeticEntries.1 member
  cases filter with
  | network network => cases cosmetic
  | elementHide filter =>
    cases cosmetic
    cases kind
  | scriptlet filter => exact ⟨filter, offered, cosmetic⟩

theorem applies_selector_iff {isException : Bool} {domain body : String} :
    CosmeticIndex.Applies input.cosmeticEntries .selector isException domain body ↔
      input.Hides isException domain body := by
  constructor
  · rintro ⟨entry, member, kind, rest⟩
    obtain ⟨filter, offered, cosmetic⟩ := exists_elementHide member kind
    cases cosmetic
    exact ⟨filter, offered, rest⟩
  · rintro ⟨filter, offered, rest⟩
    exact ⟨_, mem_cosmeticEntries.2 ⟨_, offered, rfl⟩, rfl, rest⟩

theorem applies_scriptlet_iff {isException : Bool} {domain body : String} :
    CosmeticIndex.Applies input.cosmeticEntries .scriptlet isException domain body ↔
      input.Runs isException domain body := by
  constructor
  · rintro ⟨entry, member, kind, rest⟩
    obtain ⟨filter, offered, cosmetic⟩ := exists_scriptlet member kind
    cases cosmetic
    exact ⟨filter, offered, rest⟩
  · rintro ⟨filter, offered, rest⟩
    exact ⟨_, mem_cosmeticEntries.2 ⟨_, offered, rfl⟩, rfl, rest⟩

/-- Lists that were read from texts offer entries with normal domains. -/
theorem isNormal_of_isRead (read : ∀ cached ∈ input.lists, cached.IsRead) {filter : Filter}
    (offered : input.Offers filter) {entry : CosmeticEntry}
    (cosmetic : filter.toCosmetic? = some entry) : entry.scope.IsNormal := by
  obtain ⟨cached, member, -, among⟩ := offered
  obtain ⟨list, text, fetchedAt, same⟩ := read cached member
  rw [same] at among
  exact Filter.isNormal_of_mem_ofText among cosmetic

end CompileInput

namespace Compilation.IsOf

variable {input : CompileInput} {config : CompilerConfig} {compilation : Compilation}

/-- A look-up of one kind is a scan, if the filters of that kind name normal domains. -/
theorem isScan_lookup (h : compilation.IsOf input config) {kind : CosmeticKind}
    (normal : ∀ entry ∈ input.cosmeticEntries, entry.kind = kind → entry.scope.IsNormal)
    (query : String) :
    IsScan (CosmeticIndex.Applies input.cosmeticEntries kind) query
      (compilation.cosmetics.lookup kind query) := by
  rw [h.cosmetics]
  refine ⟨?_, fun body => CosmeticIndex.mem_lookup_ofEntries normal, fun refused => ?_⟩
  · exact (CosmeticIndex.pairwise_lookup _ kind query).imp Text.bytes_lt_bytes
  · rw [CosmeticIndex.lookup, refused]

/-- The selectors for a page are those of a scan, if the filters that hide name normal domains. -/
theorem isScan_cosmeticsFor (h : compilation.IsOf input config)
    (normal : ∀ filter : ElementHideFilter, input.Offers (.elementHide filter) →
      filter.scope.IsNormal) (query : String) :
    IsScan input.Hides query (compilation.cosmetics.cosmeticsFor query) := by
  refine (h.isScan_lookup ?_ query).congr fun _ _ _ => CompileInput.applies_selector_iff
  intro entry member kind
  obtain ⟨filter, offered, cosmetic⟩ := CompileInput.exists_elementHide member kind
  cases cosmetic
  exact normal filter offered

/-- The scripts for a page are those of a scan, if the filters that run them name normal domains. -/
theorem isScan_scriptletsFor (h : compilation.IsOf input config)
    (normal : ∀ filter : ScriptletFilter, input.Offers (.scriptlet filter) →
      filter.scope.IsNormal) (query : String) :
    IsScan input.Runs query (compilation.cosmetics.scriptletsFor query) := by
  refine (h.isScan_lookup ?_ query).congr fun _ _ _ => CompileInput.applies_scriptlet_iff
  intro entry member kind
  obtain ⟨filter, offered, cosmetic⟩ := CompileInput.exists_scriptlet member kind
  cases cosmetic
  exact normal filter offered

end Compilation.IsOf

/-- A compilation that answers for pages as scans over the filters of its input do. -/
structure Compilation.ServesScans (compilation : Compilation) (input : CompileInput) : Prop where
  selectors : ∀ query, IsScan input.Hides query (compilation.cosmetics.cosmeticsFor query)
  scripts : ∀ query, IsScan input.Runs query (compilation.cosmetics.scriptletsFor query)
  /-- Only which filters hide selectors counts: neither their order or number, nor the scripts, nor any
  settings. -/
  selectors_eq : ∀ other otherConfig otherCompilation,
    compile other otherConfig = .ok otherCompilation →
    (∀ filter, other.Offers (.elementHide filter) ↔ input.Offers (.elementHide filter)) →
    ∀ query, otherCompilation.cosmetics.cosmeticsFor query =
      compilation.cosmetics.cosmeticsFor query
  /-- Only which filters run scripts counts. -/
  scripts_eq : ∀ other otherConfig otherCompilation,
    compile other otherConfig = .ok otherCompilation →
    (∀ filter, other.Offers (.scriptlet filter) ↔ input.Offers (.scriptlet filter)) →
    ∀ query, otherCompilation.cosmetics.scriptletsFor query =
      compilation.cosmetics.scriptletsFor query

/-- Valid settings yield a compilation of lists read from texts that answers for pages as scans over
their filters do. -/
theorem compile_servesScans (input : CompileInput) {config : CompilerConfig}
    (valid : config.validate = .ok ()) (read : ∀ cached ∈ input.lists, cached.IsRead) :
    ∃ compilation, compile input config = .ok compilation ∧ compilation.ServesScans input := by
  obtain ⟨compilation, compiled⟩ := exists_compile input valid
  have h := compile_inv compiled
  have selectors := h.isScan_cosmeticsFor fun filter offered =>
    CompileInput.isNormal_of_isRead read offered rfl
  have scripts := h.isScan_scriptletsFor fun filter offered =>
    CompileInput.isNormal_of_isRead read offered rfl
  refine ⟨compilation, compiled, selectors, scripts, ?_, ?_⟩
  · intro other otherConfig otherCompilation otherCompiled same query
    have scan := (compile_inv otherCompiled).isScan_cosmeticsFor
      (fun filter offered => CompileInput.isNormal_of_isRead read ((same filter).1 offered) rfl)
      query
    refine (scan.congr fun isException domain body => ?_).unique (selectors query)
    simp only [CompileInput.Hides, same]
  · intro other otherConfig otherCompilation otherCompiled same query
    have scan := (compile_inv otherCompiled).isScan_scriptletsFor
      (fun filter offered => CompileInput.isNormal_of_isRead read ((same filter).1 offered) rfl)
      query
    refine (scan.congr fun isException domain body => ?_).unique (scripts query)
    simp only [CompileInput.Runs, same]

/-- A list with a general and a narrower selector, an exception, an exclusion and a script. -/
def pageInput : CompileInput where
  lists := [.ofText (.new "base" "https://lists.test/base" .ads)
    "##.ad\na.io##.top\nb.a.io#@#.ad\n~b.a.io##.low\na.io##+js(x)" 1]
  customRules := []
  whitelist := []
  blacklist := []
  enabledCategories := [.ads]
  ruleBudget := none

/-- On a page below the exception and the exclusion the narrower selector is left. -/
theorem compile_servesScans_exception :
    CompilerConfig.standard.validate = .ok () ∧ (∀ cached ∈ pageInput.lists, cached.IsRead) ∧
      ∃ compilation, compile pageInput .standard = .ok compilation ∧
        compilation.ServesScans pageInput ∧
        compilation.cosmetics.cosmeticsFor "x.B.a.io." = [".top"] ∧
        compilation.cosmetics.scriptletsFor "c.a.io" = ["x"] := by
  have valid : CompilerConfig.standard.validate = .ok () := rfl
  have read : ∀ cached ∈ pageInput.lists, cached.IsRead := by
    intro cached member
    rw [List.mem_singleton.1 member]
    exact ⟨_, _, _, rfl⟩
  obtain ⟨compilation, compiled, serves⟩ := compile_servesScans pageInput valid read
  have index := (compile_inv compiled).cosmetics
  refine ⟨valid, read, compilation, compiled, serves, ?_, ?_⟩
  · rw [index]
    decide +kernel
  · rw [index]
    decide +kernel

end ContentFilter
