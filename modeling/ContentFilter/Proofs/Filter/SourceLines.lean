import Mathlib.Data.List.Basic
import ContentFilter.Proofs.Filter.HostsEntries

/-!
# The lines that filters remember

A network filter remembers a line to show where it comes from: the whole line of its pattern, or of a
hosts entry the address and the one word that it stands for.  A list of this line alone is read as just
this filter, so what a filter remembers is enough to have it again.
-/

namespace ContentFilter

variable {format : ListFormat} {line address word : List Char} {filter : Filter}

theorem LineResult.eq_parsed_of_mem_ofFilter? {found : Option Filter}
    (member : filter ∈ (ofFilter? found).filters) : ofFilter? found = .parsed [filter] := by
  rw [mem_filters_ofFilter?.1 member]
  rfl

theorem ParsedList.ofText_ofList (format : ListFormat) (filled : line ≠ []) (unbroken : '\n' ∉ line) :
    ofText format (String.ofList line) = ofLine (Filter.readLine format line) := by
  have single : Text.lines (String.ofList line).toList = [line] := by
    rw [String.toList_ofList]
    exact Text.lines_of_not_mem filled unbroken
  rw [ofText_of_single (by rw [single]; rfl), String.toList_ofList]

namespace Filter

/-! ## Lines with a pattern -/

theorem sourceLine_of_networkOfLine? {network : NetworkFilter}
    (read : networkOfLine? line = some network) : network.sourceLine = String.ofList line := by
  rw [networkOfLine?_eq] at read
  obtain ⟨options, -, read⟩ := Option.bind_eq_some_iff.1 read
  obtain ⟨pattern, -, rfl⟩ := Option.map_eq_some_iff.1 read
  rfl

/-- A line that is no hosts entry has one filter at most. -/
theorem adblockLine_eq_parsed (noEntry : looksLikeHostsEntry line = false)
    (member : filter ∈ (adblockLine line).filters) : adblockLine line = .parsed [filter] := by
  unfold adblockLine at member ⊢
  rw [noEntry] at member ⊢
  split at member
  · cases member
  · rename_i other
    rw [if_neg other]
    split at member
    · exact LineResult.eq_parsed_of_mem_ofFilter? member
    · split at member
      · cases member
      · rename_i noHash
        rw [if_neg noHash]
        rw [if_neg Bool.false_ne_true] at member ⊢
        split at member
        · cases member
        · rename_i single
          rw [if_neg single]
          exact LineResult.eq_parsed_of_mem_ofFilter? member

/-! ## Hosts entries of one word -/

theorem of_isSinkAddress (sink : isSinkAddress address) :
    address ≠ [] ∧ ∀ c ∈ address, Unicode.isWhiteSpace c = false ∧ c ≠ '#' := by
  have all : ∀ address ∈ sinkAddresses, address.toList ≠ [] ∧
      address.toList.all (fun c => !Unicode.isWhiteSpace c && c != '#') := by
    decide +kernel
  simpa using all _ (List.contains_iff_mem.1 sink)

/-- An entry of one word, as a filter remembers it. -/
def singleEntry (address word : List Char) : List Char := address ++ ' ' :: word

/-- A word that can stand in a hosts entry. -/
structure IsEntryWord (word : List Char) : Prop where
  ne_nil : word ≠ []
  unbroken : ∀ c ∈ word, Unicode.isWhiteSpace c = false
  uncommented : '#' ∉ word

theorem isEntryWord_of_mem_hostWords (member : word ∈ hostWords line) : IsEntryWord word := by
  have isWord := mem_words_of_mem_hostWords member
  obtain ⟨filled, unbroken⟩ := Text.mem_words isWord
  refine ⟨filled, unbroken, fun hash => ?_⟩
  have before := List.all_eq_true.1 List.all_takeWhile '#' (Text.mem_of_mem_words isWord hash)
  exact absurd before (by decide)

section SingleEntry

variable (sink : isSinkAddress address) (isWord : IsEntryWord word)

include sink isWord

theorem not_mem_singleEntry {c : Char} (outside : Unicode.isWhiteSpace c ∧ c ≠ ' ' ∨ c = '#') :
    c ∉ singleEntry address word := by
  rw [singleEntry, List.mem_append, List.mem_cons]
  rintro (inAddress | blank | inWord)
  · obtain ⟨filled, noHash⟩ := (of_isSinkAddress sink).2 c inAddress
    rcases outside with ⟨blank, -⟩ | hash
    · simp [filled] at blank
    · exact noHash hash
  · rcases outside with ⟨-, other⟩ | hash
    · exact other blank
    · exact absurd (blank.symm.trans hash) (by decide)
  · rcases outside with ⟨blank, -⟩ | rfl
    · simp [isWord.unbroken c inWord] at blank
    · exact isWord.uncommented inWord

theorem trim_singleEntry : Text.trim (singleEntry address word) = singleEntry address word := by
  obtain ⟨filled, plain⟩ := of_isSinkAddress sink
  refine Text.trim_eq_self (fun c first => ?_) fun c last => ?_
  · rw [singleEntry, List.head?_append_of_ne_nil _ filled] at first
    exact (plain c (List.mem_of_mem_head? first)).1
  · rw [singleEntry, List.getLast?_append_cons, List.getLast?_cons_of_ne_nil isWord.ne_nil] at last
    exact isWord.unbroken c (List.mem_of_mem_getLast? last)

theorem words_singleEntry : Text.words (singleEntry address word) = [address, word] := by
  obtain ⟨filled, plain⟩ := of_isSinkAddress sink
  have blank : Unicode.isWhiteSpace ' ' := rfl
  rw [singleEntry, Text.words_append blank, Text.words_of_not filled fun c member => (plain c member).1,
    Text.words_of_not isWord.ne_nil isWord.unbroken]
  rfl

/-- An entry of one word is read as the filter of the word, in either format. -/
theorem ofText_singleEntry (format : ListFormat) (found : hostFilter? address word = some filter) :
    ParsedList.ofText format (String.ofList (singleEntry address word)) = ⟨[filter], 1, 0⟩ := by
  have trimmed := trim_singleEntry sink isWord
  have words := words_singleEntry sink isWord
  have noHash : '#' ∉ singleEntry address word := not_mem_singleEntry sink isWord (.inr rfl)
  have unbroken : '\n' ∉ singleEntry address word :=
    not_mem_singleEntry sink isWord (.inl (by decide +kernel))
  have whole : (singleEntry address word).takeWhile (· != '#') = singleEntry address word :=
    List.takeWhile_eq_self_iff.2 fun c member => by
      rw [bne_iff_ne]
      rintro rfl
      exact noHash member
  have isAddress : hostAddress (singleEntry address word) = address := by
    rw [hostAddress, whole, words, List.headD_cons]
  have behind : hostWords (singleEntry address word) = [word] := by
    rw [hostWords, isAddress, if_pos sink, whole, words, List.tail_cons]
  have entry : isEntry format (singleEntry address word) := by
    cases format with
    | hosts => rfl
    | adblock =>
      rw [isEntry, trimmed, splitCosmetic?_of_not_mem noHash, looksLikeHostsEntry, words]
      exact sink
  have read : readLine format (singleEntry address word) = .parsed [filter] := by
    rw [readLine_of_isEntry entry, trimmed, hostsLine_of_isSinkAddress (isAddress.symm ▸ sink),
      isAddress, behind, List.filterMap_cons_some found, List.filterMap_nil]
  rw [ParsedList.ofText_ofList format (by simp [singleEntry]) unbroken, read]
  rfl

end SingleEntry

/-- What the filter of a hosts entry remembers is an entry of one word with just this filter. -/
theorem ofText_sourceLine_of_mem_hostsLine {network : NetworkFilter} (format : ListFormat)
    (member : .network network ∈ (hostsLine line).filters) :
    ParsedList.ofText format network.sourceLine = ⟨[.network network], 1, 0⟩ := by
  obtain ⟨word, among, found⟩ := mem_hostsLine_iff.1 member
  have sink : isSinkAddress (hostAddress line) := by
    unfold hostWords at among
    split at among
    · assumption
    · cases among
  obtain ⟨-, domain, -, same⟩ := hostFilter?_eq_some_iff.1 found
  obtain rfl := Filter.network.inj same
  exact ofText_singleEntry sink (isEntryWord_of_mem_hostWords among) format found

/-! ## Filters of a text -/

/-- What a network filter of a list remembers is a list of this filter alone, in the same format. -/
theorem ofText_sourceLine {format : ListFormat} {text : String} {network : NetworkFilter}
    (member : .network network ∈ (ParsedList.ofText format text).filters) :
    ParsedList.ofText format network.sourceLine = ⟨[.network network], 1, 0⟩ := by
  obtain ⟨result, read, among⟩ := List.mem_flatMap.1 member
  obtain ⟨line, isLine, rfl⟩ := List.mem_map.1 read
  cases format with
  | hosts => exact ofText_sourceLine_of_mem_hostsLine .hosts among
  | adblock =>
    have among : .network network ∈ (adblockLine (Text.trim line)).filters := among
    rcases mem_adblockLine_cases among with
      ⟨cosmetic, -, read⟩ | ⟨-, -, entry⟩ | ⟨pattern, -, noEntry, read, same⟩
    · exact absurd rfl (CosmeticLine.ne_network_of_filter? read network)
    · exact ofText_sourceLine_of_mem_hostsLine .adblock entry
    · obtain rfl := Filter.network.inj same
      have filled : Text.trim line ≠ [] := by
        intro empty
        rw [empty] at among
        cases among
      have unbroken : '\n' ∉ Text.trim line := fun lineFeed =>
        Text.not_mem_of_mem_lines isLine (Text.mem_of_mem_trim lineFeed)
      rw [sourceLine_of_networkOfLine? read, ParsedList.ofText_ofList .adblock filled unbroken, readLine,
        Text.trim_trim]
      rw [adblockLine_eq_parsed noEntry among]
      rfl

/-- An exception behind an entry of two domains and a reserved name, with white space and a comment. -/
def mixedList : String := " 127.0.0.1\tLocalhost A.test b.test # two\n @@||c.test^ $Script \n"

theorem ofText_sourceLine_mixedList :
    .network (hostFilter "127.0.0.1".toList "A.test".toList "a.test") ∈
        (ParsedList.ofText .adblock mixedList).filters ∧
      ParsedList.ofText .adblock "127.0.0.1 A.test" =
        ⟨[.network (hostFilter "127.0.0.1".toList "A.test".toList "a.test")], 1, 0⟩ ∧
      ∃ network, .network network ∈ (ParsedList.ofText .adblock mixedList).filters ∧
        network.sourceLine = "@@||c.test^ $Script" ∧
        ParsedList.ofText .adblock "@@||c.test^ $Script" = ⟨[.network network], 1, 0⟩ := by
  have entry : .network (hostFilter "127.0.0.1".toList "A.test".toList "a.test") ∈
      (ParsedList.ofText .adblock mixedList).filters := by decide +kernel
  have exception : .network
      { ofPattern "||c.test^" with
        isException := true
        resourceTypes := some (.only .script)
        sourceLine := "@@||c.test^ $Script" } ∈
      (ParsedList.ofText .adblock mixedList).filters := by decide +kernel
  have remembered : (hostFilter "127.0.0.1".toList "A.test".toList "a.test").sourceLine =
      "127.0.0.1 A.test" := by decide +kernel
  have entryAgain := ofText_sourceLine entry
  rw [remembered] at entryAgain
  have exceptionAgain := ofText_sourceLine exception
  exact ⟨entry, entryAgain, _, exception, rfl, exceptionAgain⟩

end Filter

end ContentFilter
