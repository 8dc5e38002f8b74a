import ContentFilter.Proofs.Filter.Reading
import ContentFilter.Proofs.Url.Address

/-!
# Hosts entries

Hosts entries make up hosts files, and stand in lists of ad filters too.  Names that are never blocked
and addresses are looked for in the words as they are written, so one gets through with dots around it,
which its normal form does not have.  And what is an entry to a hosts file is one to a list of ad filters
as long as it holds no cosmetic separator, not even in its comment.
-/

namespace ContentFilter.Filter

/-! ## Entries of a text -/

/-- Whether a line is read as a hosts entry.  In a hosts file every line is; in a list of ad filters
those that begin with an address, unless a cosmetic separator cuts them. -/
def isEntry (format : ListFormat) (line : List Char) : Bool :=
  match format with
  | .hosts => true
  | .adblock => (splitCosmetic? (Text.trim line)).isNone && looksLikeHostsEntry (Text.trim line)

/-- The lines of a text that are read as hosts entries. -/
def entries (format : ListFormat) (text : String) : List (List Char) :=
  (Text.lines text.toList).filter (isEntry format)

/-- The filters of the hosts entries of a text. -/
def entryFilters (format : ListFormat) (text : String) : List Filter :=
  (entries format text).flatMap fun line => (readLine format line).filters

/-- The words behind the addresses of the hosts entries of a text. -/
def entryWords (format : ListFormat) (text : String) : List (List Char) :=
  (entries format text).flatMap fun line => hostWords (Text.trim line)

variable {format : ListFormat} {text : String} {line word : List Char} {filter : Filter}
  {domain : String}

theorem readLine_of_isEntry (entry : isEntry format line) :
    readLine format line = hostsLine (Text.trim line) := by
  cases format with
  | hosts => rfl
  | adblock =>
    obtain ⟨uncut, begins⟩ := Bool.and_eq_true_iff.1 entry
    rw [Option.isNone_iff_eq_none] at uncut
    have read := adblockLine_of_looksLikeHostsEntry (Text.trim_trim line) begins
    rw [uncut] at read
    exact read

theorem mem_ofText_of_mem_entryFilters (member : filter ∈ entryFilters format text) :
    filter ∈ (ParsedList.ofText format text).filters := by
  obtain ⟨line, isLine, among⟩ := List.mem_flatMap.1 member
  have read : readLine format line ∈ (Text.lines text.toList).map (readLine format) :=
    List.mem_map_of_mem (List.mem_filter.1 isLine).1
  exact List.mem_flatMap.2 ⟨_, read, among⟩

/-- The filters of entries are those of their words. -/
theorem mem_entryFilters : filter ∈ entryFilters format text ↔ ∃ line ∈ entries format text,
    ∃ word ∈ hostWords (Text.trim line),
      hostFilter? (hostAddress (Text.trim line)) word = some filter := by
  rw [entryFilters, List.mem_flatMap]
  refine exists_congr fun line => and_congr_right fun member => ?_
  rw [readLine_of_isEntry (List.mem_filter.1 member).2, mem_hostsLine_iff]

theorem mem_words_of_mem_hostWords (member : word ∈ hostWords line) :
    word ∈ Text.words (line.takeWhile (· != '#')) := by
  unfold hostWords at member
  split at member
  · exact List.mem_of_mem_tail member
  · cases member

/-- A word of an entry has no white space in it, in small letters either. -/
theorem isWhiteSpace_of_mem_hostWords (member : word ∈ hostWords line) :
    ∀ c ∈ Text.lower word, Unicode.isWhiteSpace c = false := by
  intro c among
  obtain ⟨original, isIn, rfl⟩ := List.mem_map.1 among
  rw [Domain.isWhiteSpace_toLower]
  exact (Text.mem_words (mem_words_of_mem_hostWords member)).2 original isIn

/-! ## Names that are never blocked -/

/-- The filter blocks the requests to a domain. -/
def Blocks (filter : Filter) (domain : String) : Prop :=
  ∃ network, filter = .network network ∧ network.pattern = "||" ++ domain ++ "^"

theorem Blocks.unique {other : String} (blocks : filter.Blocks domain)
    (blocksToo : filter.Blocks other) : domain = other := by
  obtain ⟨network, rfl, pattern⟩ := blocks
  obtain ⟨_, same, patternToo⟩ := blocksToo
  obtain rfl := Filter.network.inj same
  have texts := congrArg String.toList (pattern.symm.trans patternToo)
  simpa [String.toList_append, String.toList_inj] using texts

/-- The filter blocks a domain that is neither an address nor one of the names that are never
blocked. -/
def SparesReserved (filter : Filter) : Prop :=
  ∃ domain, filter.Blocks domain ∧ isReserved domain.toList = false

/-- Whether a word is an address or one of the names that are never blocked, but for dots around it. -/
def isDisguised (word : List Char) : Bool :=
  let folded := Text.lower word
  Domain.trimDots folded != folded &&
    (Domain.normalize? (String.ofList folded)).any fun domain => isReserved domain.toList

/-- Neither names that are never blocked nor addresses have dots around them. -/
theorem trimDots_of_isReserved (noColon : ':' ∉ word) (reserved : isReserved word) :
    Domain.trimDots word = word := by
  rcases Bool.or_eq_true_iff.1 reserved with listed | address
  · have all : ∀ host ∈ reservedHosts, Domain.trimDots host.toList = host.toList := by decide
    simpa using all _ (List.contains_iff_mem.1 listed)
  · obtain ⟨⟨first, isFirst, firstDigit⟩, last, isLast, lastDigit⟩ :=
      Url.Address.digit_ends_of_isAddress noColon address
    refine Domain.trimDots_eq_self ?_ ?_
    · rw [isFirst]
      rintro ⟨⟩
      exact absurd firstDigit (by decide)
    · rw [isLast]
      rintro ⟨⟩
      exact absurd lastDigit (by decide)

/-- A word that stands for a domain is disguised if it is not recognized, but its domain would be. -/
theorem isDisguised_iff (unbroken : ∀ c ∈ Text.lower word, Unicode.isWhiteSpace c = false)
    (normal : Domain.normalize? (String.ofList (Text.lower word)) = some domain) :
    isDisguised word ↔ isReserved (Text.lower word) = false ∧ isReserved domain.toList := by
  obtain ⟨name, hosts⟩ := Domain.toList_of_normalize? unbroken normal
  unfold isDisguised
  dsimp only
  rw [normal, Option.any_some, Bool.and_eq_true, bne_iff_ne]
  refine and_congr_left fun reserved => ?_
  constructor
  · intro dotted
    rw [← Bool.not_eq_true]
    refine fun recognized => dotted (trimDots_of_isReserved (fun colon => ?_) recognized)
    exact absurd (hosts ':' (Domain.mem_trimDots_of_ne colon (by decide))) (by decide)
  · intro free undotted
    rw [undotted, Text.lower_lower] at name
    rw [name, free] at reserved
    cases reserved

/-- A disguise is not recognized, so its word has a filter. -/
theorem exists_hostFilter?_of_isDisguised
    (unbroken : ∀ c ∈ Text.lower word, Unicode.isWhiteSpace c = false) (disguised : isDisguised word)
    (address : List Char) : ∃ filter, hostFilter? address word = some filter := by
  obtain ⟨domain, normal, -⟩ := (Option.any_eq_true _ _).1 (Bool.and_eq_true_iff.1 disguised).2
  obtain ⟨free, -⟩ := (isDisguised_iff unbroken normal).1 disguised
  exact ⟨_, hostFilter?_eq_some_iff.2 ⟨free, domain, normal, rfl⟩⟩

/-- The filter of a word spares what is never blocked, unless the word is a disguise of it. -/
theorem sparesReserved_iff_of_hostFilter? {address : List Char}
    (unbroken : ∀ c ∈ Text.lower word, Unicode.isWhiteSpace c = false)
    (found : hostFilter? address word = some filter) :
    filter.SparesReserved ↔ isDisguised word = false := by
  obtain ⟨free, domain, normal, rfl⟩ := hostFilter?_eq_some_iff.1 found
  rw [← Bool.not_eq_true, isDisguised_iff unbroken normal]
  constructor
  · rintro ⟨other, blocks, spared⟩ ⟨-, reserved⟩
    obtain rfl : domain = other := Blocks.unique ⟨_, rfl, rfl⟩ blocks
    rw [reserved] at spared
    cases spared
  · intro plain
    exact ⟨domain, ⟨_, rfl, rfl⟩, by simpa [free] using plain⟩

/-- Every filter of an entry blocks one domain.  None of them blocks an address or a name that is never
blocked, exactly if no word is a disguise of one. -/
theorem entryFilters_sparesReserved_iff (format : ListFormat) (text : String) :
    (∀ filter ∈ entryFilters format text, filter ∈ (ParsedList.ofText format text).filters ∧
      ∃ domain, filter.Blocks domain ∧ Domain.normalize? domain = some domain) ∧
    ((∀ filter ∈ entryFilters format text, filter.SparesReserved) ↔
      ∀ word ∈ entryWords format text, isDisguised word = false) := by
  refine ⟨?_, ?_, ?_⟩
  · intro filter member
    obtain ⟨line, -, word, -, found⟩ := mem_entryFilters.1 member
    obtain ⟨-, domain, normal, rfl⟩ := hostFilter?_eq_some_iff.1 found
    exact ⟨mem_ofText_of_mem_entryFilters member, domain, ⟨_, rfl, rfl⟩,
      Domain.normalize?_of_normalize? normal⟩
  · intro spares word member
    obtain ⟨line, isLine, among⟩ := List.mem_flatMap.1 member
    have unbroken := isWhiteSpace_of_mem_hostWords among
    by_contra disguised
    rw [Bool.not_eq_false] at disguised
    obtain ⟨filter, found⟩ :=
      exists_hostFilter?_of_isDisguised unbroken disguised (hostAddress (Text.trim line))
    have spared := spares filter (mem_entryFilters.2 ⟨line, isLine, word, among, found⟩)
    rw [(sparesReserved_iff_of_hostFilter? unbroken found).1 spared] at disguised
    cases disguised
  · intro plain filter member
    obtain ⟨line, isLine, word, among, found⟩ := mem_entryFilters.1 member
    have unbroken := isWhiteSpace_of_mem_hostWords among
    exact (sparesReserved_iff_of_hostFilter? unbroken found).2
      (plain word (List.mem_flatMap.2 ⟨line, isLine, among⟩))

/-- The filter of an entry with a dot behind the name of the machine itself. -/
def dottedLocalhost : Filter :=
  .network (hostFilter "0.0.0.0".toList "localhost.".toList "localhost")

theorem not_sparesReserved_dottedLocalhost :
    entryFilters .hosts "0.0.0.0 localhost." = [dottedLocalhost] ∧
      entryFilters .adblock "0.0.0.0 localhost." = [dottedLocalhost] ∧
      ¬ dottedLocalhost.SparesReserved := by
  refine ⟨by decide +kernel, by decide +kernel, ?_⟩
  rintro ⟨domain, blocks, spared⟩
  obtain rfl : "localhost" = domain := Blocks.unique ⟨_, rfl, rfl⟩ blocks
  revert spared
  decide +kernel

/-! ## Entries in lists of ad filters -/

theorem CosmeticLine.ne_network_of_filter? {cosmetic : CosmeticLine}
    (read : cosmetic.filter? = some filter) (network : NetworkFilter) : filter ≠ .network network := by
  obtain ⟨scope, -, ⟨body, isException, rfl, -⟩ | ⟨isException, -, rfl⟩⟩ :=
    CosmeticLine.filter?_eq_some read
  · simp
  · simp

/-- A single entry is to a list of ad filters what it is to a hosts file, unless a cosmetic separator
cuts it.  Then it can only be skipped in both. -/
theorem ofText_adblock_eq_hosts_iff {text : String} (single : (Text.lines text.toList).length = 1)
    (entry : looksLikeHostsEntry text.toList) :
    ParsedList.ofText .adblock text = ParsedList.ofText .hosts text ↔
      ∀ cosmetic, splitCosmetic? (Text.trim text.toList) = some cosmetic →
        cosmetic.filter? = none ∧ ∀ word ∈ hostWords (Text.trim text.toList),
          isReserved (Text.lower word) = false ∧
            Domain.normalize? (String.ofList (Text.lower word)) = none := by
  have begins : looksLikeHostsEntry (Text.trim text.toList) := by
    rwa [looksLikeHostsEntry, Text.words_trim]
  have trimmed := Text.trim_trim text.toList
  have sink := isSinkAddress_hostAddress trimmed begins
  rw [ParsedList.ofText_of_single single, ParsedList.ofText_of_single single, readLine, readLine,
    adblockLine_of_looksLikeHostsEntry trimmed begins]
  cases cut : splitCosmetic? (Text.trim text.toList) with
  | none => simp
  | some cosmetic =>
    simp only [Option.some.injEq, forall_eq', Option.elim_some]
    rw [← hostsLine_eq_skipped_iff sink]
    cases read : cosmetic.filter? with
    | none =>
      rw [eq_comm, LineResult.ofFilter?, ParsedList.ofLine_eq_skipped_iff]
      simp
    | some filter =>
      -- no entry yields a cosmetic filter
      refine iff_of_false (fun same => ?_) (fun none => Option.some_ne_none filter none.1)
      have member : filter ∈ (hostsLine (Text.trim text.toList)).filters := by
        rw [← ParsedList.filters_ofLine, ← same]
        exact List.mem_singleton_self filter
      obtain ⟨address, word, domain, -, isNetwork⟩ := exists_of_mem_hostsLine member
      exact CosmeticLine.ne_network_of_filter? read _ isNetwork

/-- An entry with a comment. -/
def commented : String := "0.0.0.0 ads.test # a comment"

/-- An entry with a comment that begins with two hashes. -/
def doublyCommented : String := "0.0.0.0 ads.test ## comment"

theorem ofText_adblock_eq_hosts_iff_commented :
    (Text.lines commented.toList).length = 1 ∧ looksLikeHostsEntry commented.toList ∧
      ParsedList.ofText .adblock commented = ParsedList.ofText .hosts commented := by
  have single : (Text.lines commented.toList).length = 1 := by decide +kernel
  have entry : looksLikeHostsEntry commented.toList := by decide +kernel
  have uncut : splitCosmetic? (Text.trim commented.toList) = none := by decide +kernel
  refine ⟨single, entry, (ofText_adblock_eq_hosts_iff single entry).2 fun cosmetic cut => ?_⟩
  rw [uncut] at cut
  cases cut

/-- Two hashes take the whole entry away, where they should only begin its comment. -/
theorem ofText_adblock_ne_hosts_doublyCommented :
    (Text.lines doublyCommented.toList).length = 1 ∧ looksLikeHostsEntry doublyCommented.toList ∧
      ParsedList.ofText .adblock doublyCommented = ⟨[], 1, 1⟩ ∧
      ParsedList.ofText .hosts doublyCommented =
        ⟨[.network (hostFilter "0.0.0.0".toList "ads.test".toList "ads.test")], 1, 0⟩ ∧
      ParsedList.ofText .adblock doublyCommented ≠ ParsedList.ofText .hosts doublyCommented := by
  decide +kernel

end ContentFilter.Filter
