import ContentFilter.Proofs.Compilation.Precedence
import ContentFilter.Proofs.Filter.SourceLines
import ContentFilter.Proofs.FilterPattern.HostAnchor

/-!
# Hosts entries of a single label

An entry can name a host without a dot, such as a machine in the network at hand.  Its pattern is looked
for at the start of a URL as well as behind the scheme, so it does not only find the host and what is
below it: where the scheme of a URL is the name of the host, every URL of that scheme is found.
-/

namespace ContentFilter

namespace Filter

variable {label : String}

/-- The line of a hosts file that blocks a host. -/
def entryOf (label : String) : String := "0.0.0.0 " ++ label

/-- The filter that such a line stands for. -/
def entryFilter (label : String) : NetworkFilter :=
  hostFilter "0.0.0.0".toList label.toList label

/-- A name of one label is not an address, so it is blocked unless it is listed as one that never is. -/
theorem isReserved_of_single (hosts : ∀ c ∈ label.toList, Domain.isHostChar c)
    (single : '.' ∉ label.toList) (unlisted : label ∉ reservedHosts) :
    isReserved label.toList = false := by
  have noColon : ':' ∉ label.toList := fun colon => absurd (hosts ':' colon) (by decide)
  have noAddress : Url.Address.isAddress label.toList = false := by
    rw [← Bool.not_eq_true]
    exact fun address => single (Url.Address.dot_mem_of_isAddress noColon address)
  simpa [isReserved, noAddress] using unlisted

/-- An entry of one label is read as its filter, in a hosts file and in a list of ad filters. -/
theorem ofText_entryOf (normal : Domain.normalize? label = some label) (single : '.' ∉ label.toList)
    (unlisted : label ∉ reservedHosts) (format : ListFormat) :
    ParsedList.ofText format (entryOf label) = ⟨[.network (entryFilter label)], 1, 0⟩ := by
  obtain ⟨nonempty, -, hosts, small⟩ := Domain.normalize?_eq_some normal
  have text : entryOf label = String.ofList (singleEntry "0.0.0.0".toList label.toList) := by
    rw [← String.toList_inj, String.toList_ofList, entryOf, String.toList_append]
    rfl
  have isWord : IsEntryWord label.toList :=
    { ne_nil := nonempty
      unbroken := fun c member => Domain.isWhiteSpace_of_isHostChar (hosts c member)
      uncommented := fun hash => absurd (hosts '#' hash) (by decide) }
  have found : hostFilter? "0.0.0.0".toList label.toList = some (.network (entryFilter label)) := by
    rw [hostFilter?_eq_some_iff, small]
    exact ⟨isReserved_of_single hosts single unlisted, label, by simpa using normal, rfl⟩
  rw [text]
  exact ofText_singleEntry (by decide) isWord format found

/-! ## What the filter finds -/

/-- The filter of an entry is accepted into a rule set. -/
theorem isAccepted_entryFilter (normal : Domain.normalize? label = some label) :
    (entryFilter label).isAccepted :=
  FilterPattern.isValid_ofName normal

/-- The filter of an entry covers the requests of the default types to URLs that its pattern fits. -/
theorem covers_entryFilter (label : String) (types : ResourceTypes) (request : Request) :
    (entryFilter label).covers types request =
      (types.intersects request.types && request.fits false ("||" ++ label ++ "^")) := by
  have anywhere : request.isWithin .everywhere := by
    unfold Request.isWithin
    split <;> rfl
  show (types.intersects request.types && request.isWithin .everywhere && true &&
    request.fits false ("||" ++ label ++ "^")) = _
  rw [anywhere, Bool.and_true, Bool.and_true]

/-- The pattern of a label fits the URLs whose host is the label or below it, and those whose scheme is
the label. -/
theorem fits_of_single {request : Request} {url : HostUrl} (goes : request.url = url.text)
    (normal : Domain.normalize? label = some label) :
    request.fits false ("||" ++ label ++ "^") ↔
      Domain.matchesDomain (String.ofList url.host) label ∨ Text.lower url.scheme = label.toList := by
  obtain ⟨nonempty, -, hosts, small⟩ := Domain.normalize?_eq_some normal
  rw [Request.fits, FilterPattern.load?_ofName normal, Option.any_some, Glob.isMatch_toRegex, goes,
    HostUrl.text, String.toList_ofList, url.matches_ofName_iff_host_or_scheme hosts,
    Domain.matchesDomain_iff, String.toList_ofList, Domain.trimEndDots_eq_self url.not_dot_at_end, small]
  simp [nonempty]

/-- An entry of one label is read as one filter, which is compiled under all settings.  Of the requests of
the default types its rule matches those to the host of this name and to hosts below it, and all others
whose scheme is the label. -/
theorem matchesRequest_entryFilter_iff (normal : Domain.normalize? label = some label)
    (single : '.' ∉ label.toList) (unlisted : label ∉ reservedHosts) :
    (∀ format, ParsedList.ofText format (entryOf label) = ⟨[.network (entryFilter label)], 1, 0⟩) ∧
    ∀ config category tier, ∃ draft,
      RuleDraft.ofFilter? config category tier (entryFilter label) = some draft ∧
      ∀ id (url : HostUrl) types initiator,
        (draft.toRule id).matchesRequest ⟨url.text, types, initiator⟩ ↔
          config.defaultTypes.intersects types ∧
            (Domain.matchesDomain (String.ofList url.host) label ∨
              Text.lower url.scheme = label.toList) := by
  refine ⟨ofText_entryOf normal single unlisted, fun config category tier => ?_⟩
  rcases RuleDraft.ofFilter?_cases config category tier (entryFilter label) with
    ⟨refused, -⟩ | ⟨draft, -, drafted, -, covered⟩
  · simp [isAccepted_entryFilter normal] at refused
  · refine ⟨draft, drafted, fun id url types initiator => ?_⟩
    rw [RuleDraft.matchesRequest_toRule, covered, covers_entryFilter, Bool.and_eq_true,
      fits_of_single rfl normal]

/-- A URL of a machine below a name of one label. -/
def printerUrl : HostUrl where
  scheme := "http".toList
  host := "printer.Example".toList
  port := some "631".toList
  rest := "/".toList
  scheme_ne_nil := by decide
  isAlpha_of_mem_scheme := List.all_eq_true.1 (by decide)
  host_ne_nil := by decide
  isHostChar_of_mem_host := List.all_eq_true.1 (by decide)
  not_dot_at_end := by decide
  isDigit_of_mem_port := by
    rintro _ ⟨⟩
    exact List.all_eq_true.1 (by decide)
  endsAuthority_of_head_rest := by
    rintro _ ⟨⟩
    decide

/-- The entry of the name above finds the machine, and the entry of the machine's own label does not. -/
theorem matchesRequest_entryFilter_iff_printer :
    (Domain.normalize? "example" = some "example" ∧ '.' ∉ "example".toList ∧
      "example" ∉ reservedHosts) ∧
    (Domain.normalize? "printer" = some "printer" ∧ '.' ∉ "printer".toList ∧
      "printer" ∉ reservedHosts) ∧
    ∃ above own,
      RuleDraft.ofFilter? .standard .malware .listBlock (entryFilter "example") = some above ∧
      RuleDraft.ofFilter? .standard .malware .listBlock (entryFilter "printer") = some own ∧
      (above.toRule 21000).matchesRequest ⟨printerUrl.text, .only .script, none⟩ ∧
      ¬ (own.toRule 21001).matchesRequest ⟨printerUrl.text, .only .script, none⟩ := by
  have exampleIsLabel : Domain.normalize? "example" = some "example" ∧ '.' ∉ "example".toList ∧
      "example" ∉ reservedHosts := by decide +kernel
  have printerIsLabel : Domain.normalize? "printer" = some "printer" ∧ '.' ∉ "printer".toList ∧
      "printer" ∉ reservedHosts := by decide +kernel
  obtain ⟨above, aboveDrafted, aboveFinds⟩ := (matchesRequest_entryFilter_iff exampleIsLabel.1
    exampleIsLabel.2.1 exampleIsLabel.2.2).2 .standard .malware .listBlock
  obtain ⟨own, ownDrafted, ownFinds⟩ := (matchesRequest_entryFilter_iff printerIsLabel.1
    printerIsLabel.2.1 printerIsLabel.2.2).2 .standard .malware .listBlock
  refine ⟨exampleIsLabel, printerIsLabel, above, own, aboveDrafted, ownDrafted,
    (aboveFinds 21000 printerUrl (.only .script) none).2 (by decide +kernel), fun found => ?_⟩
  exact absurd ((ownFinds 21001 printerUrl (.only .script) none).1 found) (by decide +kernel)

/-- The entry of a host that is called as the scheme finds the machine all the same, which is neither that
host nor below it. -/
theorem matchesRequest_entryFilter_http :
    Domain.normalize? "http" = some "http" ∧ '.' ∉ "http".toList ∧ "http" ∉ reservedHosts ∧
    ParsedList.ofText .hosts (entryOf "http") = ⟨[.network (entryFilter "http")], 1, 0⟩ ∧
    (∃ draft, RuleDraft.ofFilter? .standard .malware .listBlock (entryFilter "http") = some draft ∧
      (draft.toRule 21000).matchesRequest ⟨printerUrl.text, .only .script, none⟩) ∧
    ¬ Domain.matchesDomain (String.ofList printerUrl.host) "http" := by
  have normal : Domain.normalize? "http" = some "http" := by decide +kernel
  refine ⟨normal, by decide, by decide, by decide +kernel, ?_, by decide +kernel⟩
  rcases RuleDraft.ofFilter?_cases .standard .malware .listBlock (entryFilter "http") with
    ⟨refused, -⟩ | ⟨draft, -, drafted, -, covered⟩
  · simp [isAccepted_entryFilter normal] at refused
  · have fits : Request.fits ⟨printerUrl.text, .only .script, none⟩ false ("||" ++ "http" ++ "^") :=
      (fits_of_single rfl normal).2 (.inr (by decide))
    refine ⟨draft, drafted, ?_⟩
    rw [RuleDraft.matchesRequest_toRule, covered, covers_entryFilter, fits, Bool.and_true]
    decide

end Filter

end ContentFilter
