import ContentFilter.Proofs.Filter.Reading

/-!
# Texts on their own

A rule that a user has typed is read on its own, and its text could also be a line of a list.  A list
looks at more before it takes a line for a pattern, so a text can be a network filter on its own and
something else to a list.
-/

namespace ContentFilter.Filter

/-- What a list looks at in a line that is neither a comment nor cosmetic, before it takes the line for a
pattern: a hash in front, an address in front, and two dollar signs. -/
def isPatternLine (line : List Char) : Bool :=
  line.head? != some '#' && !looksLikeHostsEntry line && !Text.containsText ['$', '$'] line

variable {text : String} {line : List Char} {filter : NetworkFilter}

/-- The filter of a hosts entry is never the one that its line would be as a pattern. -/
theorem network_not_mem_hostsLine (entry : looksLikeHostsEntry line) (trimmed : Text.trim line = line)
    (read : networkOfLine? line = some filter) : .network filter ∉ (hostsLine line).filters := by
  intro member
  obtain ⟨c, first, begins⟩ := head?_of_looksLikeHostsEntry trimmed entry
  have noMark : ∀ c ∈ ['0', '1', ':'], c ∉ ['@', '$'] ∧ c ≠ '|' := by simp
  have filled : Unicode.isWhiteSpace c = false :=
    Text.isWhiteSpace_of_head?_trim c (by rwa [trimmed])
  have pattern := head?_pattern_of_networkOfLine? read first (noMark c begins).1 filled
  obtain ⟨address, word, domain, -, same⟩ := exists_of_mem_hostsLine member
  obtain rfl := Filter.network.inj same
  have anchor : (hostFilter address word domain).pattern.toList.head? = some '|' := by
    simp [hostFilter, String.toList_append]
  exact (noMark c begins).2 (Option.some.inj (pattern.symm.trans anchor))

/-- What a list does with a text that is a network filter on its own. -/
theorem adblockLine_of_network? (read : network? text = some filter) :
    adblockLine (Text.trim text.toList) =
      if isPatternLine (Text.trim text.toList) then .parsed [.network filter]
      else if (Text.trim text.toList).head? == some '#' then .ignored
      else if looksLikeHostsEntry (Text.trim text.toList) then hostsLine (Text.trim text.toList)
      else .skipped := by
  unfold network? at read
  dsimp only at read
  generalize Text.trim text.toList = line at read ⊢
  split at read
  · cases read
  · rename_i other
    simp only [Bool.or_eq_true, not_or, Bool.not_eq_true, Option.isSome_eq_false_iff,
      Option.isNone_iff_eq_none] at other
    obtain ⟨⟨filled, noComment⟩, uncut⟩ := other
    unfold adblockLine isPatternLine
    rw [filled, noComment, uncut, read]
    by_cases hash : line.head? = some '#'
    · simp [hash]
    · by_cases entry : looksLikeHostsEntry line
      · simp [hash, entry]
      · by_cases html : Text.containsText ['$', '$'] line
        · simp [hash, entry, html]
        · simp [hash, entry, html, LineResult.ofFilter?]

/-- A text that is a network filter on its own is just this filter to a list, if it does not begin with
a hash or an address and has no two dollar signs in a row.  Otherwise the list does not have the
filter. -/
theorem ofText_iff_of_network? (single : (Text.lines text.toList).length = 1)
    (read : network? text = some filter) :
    (ParsedList.ofText .adblock text = ⟨[.network filter], 1, 0⟩ ↔
      isPatternLine (Text.trim text.toList)) ∧
    (.network filter ∈ (ParsedList.ofText .adblock text).filters ↔
      isPatternLine (Text.trim text.toList)) := by
  have isLine : readLine .adblock text.toList = adblockLine (Text.trim text.toList) := rfl
  rw [ParsedList.ofText_of_single single, isLine, adblockLine_of_network? read,
    ParsedList.filters_ofLine]
  by_cases isPattern : isPatternLine (Text.trim text.toList)
  · rw [if_pos isPattern]
    exact ⟨iff_of_true rfl isPattern, iff_of_true (List.mem_singleton_self _) isPattern⟩
  · rw [if_neg isPattern]
    have absent : .network filter ∉ (if (Text.trim text.toList).head? == some '#' then .ignored
        else if looksLikeHostsEntry (Text.trim text.toList) then hostsLine (Text.trim text.toList)
        else LineResult.skipped).filters := by
      split
      · exact List.not_mem_nil
      · split
        · rename_i entry
          exact network_not_mem_hostsLine entry (Text.trim_trim _) (networkOfLine?_of_network? read)
        · exact List.not_mem_nil
    refine ⟨iff_of_false (fun same => absent ?_) isPattern, iff_of_false absent isPattern⟩
    rw [← ParsedList.filters_ofLine, same]
    exact List.mem_singleton_self _

/-- An exception, with white space around it. -/
def paddedException : String := " @@||ads.test^ "

theorem ofText_iff_of_network?_paddedException :
    (Text.lines paddedException.toList).length = 1 ∧
      network? paddedException = some
        { ofPattern "||ads.test^" with isException := true, sourceLine := "@@||ads.test^" } ∧
      ParsedList.ofText .adblock paddedException = ⟨[.network
        { ofPattern "||ads.test^" with isException := true, sourceLine := "@@||ads.test^" }], 1, 0⟩ := by
  have single : (Text.lines paddedException.toList).length = 1 := by decide +kernel
  have read : network? paddedException = some
      { ofPattern "||ads.test^" with isException := true, sourceLine := "@@||ads.test^" } := by
    decide +kernel
  exact ⟨single, read, (ofText_iff_of_network? single read).1.2 (by decide +kernel)⟩

/-- A filter on the HTML of a site. -/
def htmlFilter : String := "example.com$$script[data-ad]"

/-- On its own, a filter on the HTML of a site is one on all requests that name the site.  No list takes
it for that. -/
theorem not_ofText_of_network?_htmlFilter :
    (Text.lines htmlFilter.toList).length = 1 ∧
      network? htmlFilter = some { ofPattern "example.com" with sourceLine := htmlFilter } ∧
      ParsedList.ofText .adblock htmlFilter = ⟨[], 1, 1⟩ := by
  decide +kernel

end ContentFilter.Filter
