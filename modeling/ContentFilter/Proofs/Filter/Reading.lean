import Mathlib.Data.List.TakeWhile
import ContentFilter.FilterList
import ContentFilter.Proofs.Domain.Lists

/-!
# Where filters come from

A filter of a list was read from a cosmetic line, from a word of a hosts entry, or from a line that
holds a pattern.  Here is said once what each of them yields; what holds of every filter follows from
the three.
-/

namespace ContentFilter

theorem LineResult.mem_filters_ofFilter? {found : Option Filter} {filter : Filter} :
    filter ∈ (LineResult.ofFilter? found).filters ↔ found = some filter := by
  cases found with
  | none => simp [ofFilter?, filters]
  | some other => simp [ofFilter?, filters, eq_comm]

namespace Filter

/-- The domains that a filter is restricted to. -/
def scope : Filter → Domain.Scope
  | .network filter => filter.scope
  | .elementHide filter => filter.scope
  | .scriptlet filter => filter.scope

/-! ## Options -/

namespace Options

/-- The list of domains in a token, if the token is an option that has one. -/
def domains? (token : List Char) : Option (List Char) :=
  let token := Text.trim token
  let name := token.takeWhile (· != '=')
  match token.drop name.length with
  | [] => Option.none
  | _ :: value =>
    let folded := String.ofList (Text.lower name)
    if folded == "domain" || folded == "from" then some value else Option.none

/-- The tokens of all lists of domains in a clause. -/
def domainTokens (clause : List Char) : List (List Char) :=
  ((Text.splitOn ',' clause).filterMap domains?).flatMap (Text.splitOn '|')

theorem scope_addType (options : Options) (name : String) :
    (options.addType name).scope = options.scope := by
  unfold addType
  split
  all_goals
    split
    · rfl
    · rfl

theorem scope_addPlain {options after : Options} {name : String}
    (h : options.addPlain name = some after) : after.scope = options.scope := by
  unfold addPlain at h
  split at h
  · cases h
    rfl
  · cases h
    rfl
  · cases h
    rfl
  · cases h
    rfl
  · split at h
    · cases h
      rfl
    · split at h
      · cases h
      · cases h
        exact scope_addType options name

/-- A token adds its list of domains to the scope, and no other token changes it. -/
theorem addToken_cases {options after : Options} {token : List Char}
    (h : options.addToken token = some after) :
    (∃ value scope, domains? token = some value ∧ Domain.Scope.ofList? '|' value = some scope ∧
      after.scope = options.scope.merge scope) ∨
    (domains? token = Option.none ∧ after.scope = options.scope) := by
  unfold addToken at h
  unfold domains?
  dsimp only at h ⊢
  generalize Text.trim token = trimmed at h ⊢
  split at h
  · rename_i empty
    rw [List.isEmpty_iff] at empty
    subst empty
    cases h
    exact .inr ⟨rfl, rfl⟩
  · split at h
    · rename_i value behind
      unfold addValued at h
      split at h
      · rename_i isDomain
        unfold addDomains at h
        obtain ⟨scope, read, h⟩ := Option.bind_eq_some_iff.1 h
        split at h
        · cases h
        · cases h
          refine .inl ⟨value, scope, ?_, read, rfl⟩
          rw [behind]
          exact if_pos isDomain
      · rename_i other
        split at h
        · cases h
        · cases h
          refine .inr ⟨?_, rfl⟩
          rw [behind]
          exact if_neg other
    · rename_i behind
      rw [behind]
      exact .inr ⟨rfl, scope_addPlain h⟩

/-- Tokens one after another add the domains of their lists. -/
theorem isOf_foldlM_addToken {options after : Options} {before tokens : List (List Char)}
    (listed : options.scope.IsOf before) (h : tokens.foldlM addToken options = some after) :
    after.scope.IsOf (before ++ (tokens.filterMap domains?).flatMap (Text.splitOn '|')) := by
  induction tokens generalizing options before with
  | nil =>
    cases h
    simpa using listed
  | cons token rest ih =>
    rw [List.foldlM_cons, Option.bind_eq_bind, Option.bind_eq_some_iff] at h
    obtain ⟨next, added, behind⟩ := h
    rcases addToken_cases added with ⟨value, scope, found, read, merged⟩ | ⟨none, same⟩
    · have grown := listed.merge (Domain.Scope.isOf_ofList? read)
      rw [← merged] at grown
      rw [List.filterMap_cons_some found, List.flatMap_cons, ← List.append_assoc]
      exact ih grown behind
    · rw [← same] at listed
      rw [List.filterMap_cons_none none]
      exact ih listed behind

/-- Options hold the domains of the lists in their clause, and leave a type to a filter that names
types. -/
theorem parse?_eq_some {clause : List Char} {options : Options} (h : parse? clause = some options) :
    options.scope.IsOf (domainTokens clause) ∧
      ∀ types, options.resourceTypes = some types → types.isEmpty = false := by
  obtain ⟨whole, read, kept⟩ := Option.bind_eq_some_iff.1 h
  split at kept
  · cases kept
  · rename_i left
    cases kept
    refine ⟨isOf_foldlM_addToken Domain.Scope.isOf_everywhere read, fun types restricted => ?_⟩
    simpa [restricted] using left

end Options

/-! ## Lines with a pattern -/

/-- The text behind the mark of an exception, or the whole line. -/
def ruleBody (line : List Char) : List Char :=
  ((Text.stripStart? ['@', '@'] line).map Text.trimStart).getD line

/-- The clause of options in a line; without one it is empty. -/
def optionClause (line : List Char) : List Char := (splitOptions (ruleBody line)).2.getD []

/-- A pattern that is not empty is stored as it is. -/
theorem storedPattern?_eq_self {scope : Domain.Scope} {pattern stored : List Char}
    (h : storedPattern? scope pattern = some stored) (nonempty : pattern ≠ []) : stored = pattern := by
  unfold storedPattern? at h
  split at h
  · cases h
  · split at h
    · rename_i everything
      split at h
      · cases h
      · cases h
        have isStar := (Bool.or_eq_true_iff.1 everything).resolve_left (by simpa using nonempty)
        exact (eq_of_beq isStar).symm
    · split at h
      · cases h
      · cases h
        rfl

/-- The filter of a line with options and a pattern. -/
def lineFilter (line : List Char) (options : Options) (pattern : List Char) : NetworkFilter where
  pattern := String.ofList pattern
  isException := (Text.stripStart? ['@', '@'] line).isSome
  scope := options.scope
  resourceTypes := options.resourceTypes
  party := options.party
  important := options.important
  matchCase := options.matchCase
  badfilter := options.badfilter
  sourceLine := String.ofList line

/-- A line is read by its options and then its pattern; one without a clause has the options of an empty
one. -/
theorem networkOfLine?_eq (line : List Char) :
    networkOfLine? line = (Options.parse? (optionClause line)).bind fun options =>
      (storedPattern? options.scope (Text.trim (splitOptions (ruleBody line)).1)).map
        (lineFilter line options) := by
  unfold networkOfLine?
  split
  rename_i isException body marked
  have behind : isException = (Text.stripStart? ['@', '@'] line).isSome ∧ body = ruleBody line := by
    unfold ruleBody Text.stripStart?
    split at marked
    · cases marked
      exact ⟨rfl, rfl⟩
    · cases marked
      rename_i unmarked
      rw [if_neg]
      · exact ⟨rfl, rfl⟩
      · intro marked
        obtain ⟨rest, rfl⟩ := List.isPrefixOf_iff_prefix.1 marked
        exact unmarked rest rfl
  obtain ⟨rfl, rfl⟩ := behind
  simp only [optionClause, Option.map_eq_bind]
  generalize splitOptions (ruleBody line) = parts
  obtain ⟨patternText, clause⟩ := parts
  cases clause with
  | none => rfl
  | some clause => rfl

/-- A line with a pattern yields a filter with the stored pattern, the scope and the types that its
options name. -/
theorem networkOfLine?_eq_some {line : List Char} {filter : NetworkFilter}
    (h : networkOfLine? line = some filter) :
    ∃ options pattern, Options.parse? (optionClause line) = some options ∧
      storedPattern? options.scope (Text.trim (splitOptions (ruleBody line)).1) = some pattern ∧
      filter.pattern = String.ofList pattern ∧ filter.scope = options.scope ∧
      filter.resourceTypes = options.resourceTypes := by
  rw [networkOfLine?_eq] at h
  obtain ⟨options, read, h⟩ := Option.bind_eq_some_iff.1 h
  obtain ⟨pattern, stored, rfl⟩ := Option.map_eq_some_iff.1 h
  exact ⟨options, pattern, read, stored, rfl, rfl, rfl⟩

theorem eq_append_of_splitAtDollar {escaped : Bool} {s before behind : List Char}
    (split : splitAtDollar escaped s = some (before, behind)) : s = before ++ '$' :: behind := by
  induction s generalizing escaped before with
  | nil => cases split
  | cons c rest ih =>
    unfold splitAtDollar at split
    split at split
    · rename_i dollar
      obtain rfl := of_decide_eq_true (Bool.and_eq_true_iff.1 dollar).1
      cases split
      rfl
    · obtain ⟨parts, later, same⟩ := Option.map_eq_some_iff.1 split
      cases same
      rw [ih later]
      rfl

theorem throughLastSlash_isPrefix (s : List Char) : throughLastSlash s <+: s := by
  have suffix := List.dropWhile_suffix (l := s.reverse) (· != '/')
  rw [throughLastSlash, ← List.reverse_suffix, List.reverse_reverse]
  exact suffix

/-- The front of a body that is a regular expression, if it has one. -/
def literalFront (body : List Char) : List Char :=
  if (FilterPattern.regexLiteral? (throughLastSlash body)).isSome then throughLastSlash body else []

theorem splitOptions_eq (body : List Char) : splitOptions body =
    match splitAtDollar false (body.drop (literalFront body).length) with
    | some (before, clause) => (literalFront body ++ before, some clause)
    | none => (body, none) := rfl

theorem literalFront_isPrefix (body : List Char) : literalFront body <+: body := by
  unfold literalFront
  split
  · exact throughLastSlash_isPrefix body
  · exact List.nil_prefix

/-- Only a dollar sign ends the pattern of a line early. -/
theorem exists_eq_splitOptions_append (body : List Char) :
    ∃ behind, body = (splitOptions body).1 ++ behind ∧ ∀ c ∈ behind.head?, c = '$' := by
  rw [splitOptions_eq]
  split
  · rename_i before clause split
    refine ⟨'$' :: clause, ?_, by simp⟩
    rw [List.append_assoc, ← eq_append_of_splitAtDollar split]
    exact (List.prefix_iff_eq_append.1 (literalFront_isPrefix body)).symm
  · exact ⟨[], by simp, by simp⟩

/-- The pattern of a filter begins like its line, unless an exception, the options or white space stand
there. -/
theorem head?_pattern_of_networkOfLine? {line : List Char} {filter : NetworkFilter} {c : Char}
    (read : networkOfLine? line = some filter) (first : line.head? = some c)
    (noMark : c ∉ ['@', '$']) (filled : Unicode.isWhiteSpace c = false) :
    filter.pattern.toList.head? = some c := by
  simp only [List.mem_cons, List.not_mem_nil, or_false, not_or] at noMark
  obtain ⟨options, pattern, -, stored, text, -, -⟩ := networkOfLine?_eq_some read
  have whole : ruleBody line = line := by
    have unmarked : ['@', '@'].isPrefixOf line = false := by
      cases line with
      | nil => rfl
      | cons d rest =>
        obtain rfl := Option.some.inj first
        simp [List.isPrefixOf, Ne.symm noMark.1]
    simp [ruleBody, Text.stripStart?, unmarked]
  rw [whole] at stored
  obtain ⟨behind, split, ends⟩ := exists_eq_splitOptions_append line
  cases front : (splitOptions line).1 with
  | nil =>
    rw [front, List.nil_append] at split
    subst split
    exact absurd (ends c first) noMark.2
  | cons d rest =>
    rw [split, front] at first
    obtain rfl := Option.some.inj first
    rw [front, Text.trim_cons filled] at stored
    obtain rfl := storedPattern?_eq_self stored (List.cons_ne_nil _ _)
    rw [text, String.toList_ofList]
    rfl

/-- The filter that a line with nothing but a pattern stands for. -/
def ofPattern (pattern : String) : NetworkFilter where
  pattern
  isException := false
  scope := .everywhere
  resourceTypes := none
  party := none
  important := false
  matchCase := false
  badfilter := false
  sourceLine := pattern

/-! ## Hosts entries -/

/-- The first word of a line in front of a comment. -/
def hostAddress (line : List Char) : List Char :=
  (Text.words (line.takeWhile (· != '#'))).headD []

/-- The words of a hosts entry behind its address.  Lines that send nothing to an address that leads
nowhere have none. -/
def hostWords (line : List Char) : List (List Char) :=
  if isSinkAddress (hostAddress line) then (Text.words (line.takeWhile (· != '#'))).tail else []

theorem head?_of_isSinkAddress {word : List Char} (sink : isSinkAddress word) :
    ∃ c ∈ word.head?, c ∈ ['0', '1', ':'] := by
  have all : ∀ address ∈ sinkAddresses, address.toList.head?.any ['0', '1', ':'].contains := by
    decide
  obtain ⟨c, first, begins⟩ := (Option.any_eq_true _ _).1 (all _ (List.contains_iff_mem.1 sink))
  rw [String.toList_ofList] at first
  exact ⟨c, first, List.contains_iff_mem.1 begins⟩

/-- A trimmed text begins like its first word. -/
theorem head?_of_words {s word : List Char} {rest : List (List Char)}
    (split : Text.words s = word :: rest) : (Text.trim s).head? = word.head? := by
  cases text : Text.trim s with
  | nil =>
    rw [← Text.words_trim, text] at split
    cases split
  | cons c left =>
    have filled := Text.isWhiteSpace_of_head?_trim c (by rw [text]; rfl)
    obtain ⟨others, first⟩ := Text.words_cons filled left
    rw [← Text.words_trim, text, first] at split
    obtain ⟨rfl, -⟩ := List.cons.inj split
    simp [filled]

/-- An entry is the filters of its words, or skipped if none of them means anything. -/
theorem hostsLine_of_isSinkAddress {line : List Char} (sink : isSinkAddress (hostAddress line)) :
    hostsLine line =
      match (hostWords line).filterMap (hostFilter? (hostAddress line)) with
      | [] => if (hostWords line).any fun word => isReserved (Text.lower word) then .ignored else .skipped
      | filters => .parsed filters := by
  unfold hostWords
  rw [if_pos sink]
  unfold hostAddress at sink ⊢
  cases split : Text.words (line.takeWhile (· != '#')) with
  | nil =>
    rw [split] at sink
    exact absurd sink (by decide)
  | cons address names =>
    rw [split] at sink
    have noComment : isComment (Text.trim (line.takeWhile (· != '#'))) = false := by
      obtain ⟨c, first, begins⟩ := head?_of_isSinkAddress sink
      rw [List.headD_cons] at first
      rw [isComment, head?_of_words split, first]
      simp only [List.mem_cons, List.not_mem_nil, or_false] at begins
      rcases begins with rfl | rfl | rfl <;> rfl
    unfold hostsLine
    dsimp only
    rw [Text.words_trim, split]
    dsimp only
    rw [if_neg (by simp [noComment]), if_neg (by simpa using sink)]
    rfl

theorem mem_hostsLine_iff {line : List Char} {filter : Filter} :
    filter ∈ (hostsLine line).filters ↔
      ∃ word ∈ hostWords line, hostFilter? (hostAddress line) word = some filter := by
  by_cases sink : isSinkAddress (hostAddress line)
  · rw [hostsLine_of_isSinkAddress sink, ← List.mem_filterMap]
    split
    · rename_i none
      rw [none]
      split <;> simp [LineResult.filters]
    · rename_i filters _
      simp [LineResult.filters]
  · have nothing : (hostsLine line).filters = [] := by
      unfold hostsLine
      unfold hostAddress at sink
      dsimp only
      rw [Text.words_trim]
      split
      · rfl
      · rename_i address names split
        rw [split, List.headD_cons] at sink
        split
        · rfl
        · rw [if_pos (by simpa using sink)]
          rfl
    simp [nothing, hostWords, sink]

theorem hostFilter?_eq_some_iff {address word : List Char} {filter : Filter} :
    hostFilter? address word = some filter ↔ isReserved (Text.lower word) = false ∧
      ∃ domain, Domain.normalize? (String.ofList (Text.lower word)) = some domain ∧
        filter = .network (hostFilter address word domain) := by
  unfold hostFilter?
  dsimp only
  split
  · rename_i reserved
    simp [reserved]
  · rename_i free
    rw [Option.map_eq_some_iff, Bool.not_eq_true] at *
    simp only [free, true_and, eq_comm]

/-- A filter of a hosts entry blocks the domain that a word of the entry stands for. -/
theorem exists_of_mem_hostsLine {line : List Char} {filter : Filter}
    (member : filter ∈ (hostsLine line).filters) :
    ∃ address word domain, Domain.normalize? (String.ofList (Text.lower word)) = some domain ∧
      filter = .network (hostFilter address word domain) := by
  obtain ⟨word, -, found⟩ := mem_hostsLine_iff.1 member
  obtain ⟨-, domain, normal, rfl⟩ := hostFilter?_eq_some_iff.1 found
  exact ⟨hostAddress line, word, domain, normal, rfl⟩

/-- An entry is skipped if no word of it is a domain or a name that is never blocked. -/
theorem hostsLine_eq_skipped_iff {line : List Char} (sink : isSinkAddress (hostAddress line)) :
    hostsLine line = .skipped ↔ ∀ word ∈ hostWords line, isReserved (Text.lower word) = false ∧
      Domain.normalize? (String.ofList (Text.lower word)) = none := by
  have isNone {word : List Char} (free : isReserved (Text.lower word) = false) :
      hostFilter? (hostAddress line) word = none ↔
        Domain.normalize? (String.ofList (Text.lower word)) = none := by
    simp [hostFilter?, free]
  rw [hostsLine_of_isSinkAddress sink]
  constructor
  · intro skipped word member
    split at skipped
    · rename_i none
      split at skipped
      · cases skipped
      · rename_i reserved
        rw [List.filterMap_eq_nil_iff] at none
        have free : isReserved (Text.lower word) = false := by
          simpa using fun reservedWord => reserved (List.any_eq_true.2 ⟨word, member, reservedWord⟩)
        exact ⟨free, (isNone free).1 (none word member)⟩
    · cases skipped
  · intro nothing
    have none : (hostWords line).filterMap (hostFilter? (hostAddress line)) = [] :=
      List.filterMap_eq_nil_iff.2 fun word member => (isNone (nothing word member).1).2 (nothing word member).2
    have free : ¬ (hostWords line).any fun word => isReserved (Text.lower word) := by
      simpa using fun word member => (nothing word member).1
    rw [none]
    exact if_neg free

/-- The address of a trimmed line that looks like an entry is its first word. -/
theorem isSinkAddress_hostAddress {line : List Char} (trimmed : Text.trim line = line)
    (entry : looksLikeHostsEntry line) : isSinkAddress (hostAddress line) := by
  obtain ⟨word, isFirst, sink⟩ := (Option.any_eq_true _ _).1 entry
  cases line with
  | nil => cases isFirst
  | cons c rest =>
    have filled := Text.isWhiteSpace_of_head?_trim c (by rw [trimmed]; rfl)
    obtain ⟨others, split⟩ := Text.words_cons filled rest
    rw [split] at isFirst
    obtain rfl := Option.some.inj isFirst
    have noHash : ∀ d ∈ (c :: rest).takeWhile (!Unicode.isWhiteSpace ·), d != '#' := by
      have all : ∀ address ∈ sinkAddresses, address.toList.all (· != '#') := by decide
      simpa using all _ (List.contains_iff_mem.1 sink)
    have kept : ((c :: rest).takeWhile (· != '#')).takeWhile (!Unicode.isWhiteSpace ·) =
        (c :: rest).takeWhile (!Unicode.isWhiteSpace ·) := by
      rw [← List.takeWhile_eq_self_iff.2 noHash, List.takeWhile_takeWhile, List.takeWhile_takeWhile]
      simp only [and_comm]
    have unhashed : (c :: rest).takeWhile (· != '#') = c :: rest.takeWhile (· != '#') := by
      have other : c ≠ '#' := by
        rintro rfl
        simp [filled] at noHash
      exact List.takeWhile_cons_of_pos (by simpa using other)
    rw [unhashed] at kept
    obtain ⟨others, split⟩ := Text.words_cons filled (rest.takeWhile (· != '#'))
    rw [hostAddress, unhashed, split, List.headD_cons, kept]
    exact sink

/-! ## Cosmetic lines -/

/-- A line without a hash has no cosmetic separator. -/
theorem splitCosmetic?_of_not_mem {line : List Char} (noHash : '#' ∉ line) :
    splitCosmetic? line = none := by
  induction line with
  | nil => rfl
  | cons c rest ih =>
    obtain ⟨other, later⟩ := not_or.1 (mt List.mem_cons.2 noHash)
    have none : separatorAt? (c :: rest) = none := by
      simp [separatorAt?, cosmeticSeparators, Text.stripStart?, other]
    rw [splitCosmetic?, none, ih later]
    rfl

/-- A list of domains in front of a separator that names a domain to include keeps one. -/
theorem cosmeticScope?_eq_some {domains : List Char} {scope : Domain.Scope}
    (h : cosmeticScope? domains = some scope) :
    scope.IsOf (Text.splitOn ',' domains) ∧ (namesInclude domains → scope.includes ≠ []) := by
  obtain ⟨whole, read, kept⟩ := Option.bind_eq_some_iff.1 h
  split at kept
  · cases kept
  · rename_i left
    cases kept
    refine ⟨Domain.Scope.isOf_ofList? read, fun named empty => left ?_⟩
    rw [empty, named]
    rfl

/-- A cosmetic line yields a script or a selector, restricted as its list of domains says.  Only the
script of an exception can be empty. -/
theorem CosmeticLine.filter?_eq_some {line : CosmeticLine} {filter : Filter}
    (h : line.filter? = some filter) :
    ∃ scope, cosmeticScope? line.domains = some scope ∧
      ((∃ body isException, filter = .scriptlet ⟨String.ofList body, scope, isException⟩ ∧
          (body = [] → isException = true)) ∨
        ∃ isException, Text.trim line.body ≠ [] ∧
          filter = .elementHide ⟨String.ofList (Text.trim line.body), scope, isException⟩) := by
  unfold filter? at h
  dsimp only at h
  split at h
  · cases h
  · rename_i filled
    rw [List.isEmpty_iff] at filled
    obtain ⟨scope, found, h⟩ := Option.bind_eq_some_iff.1 h
    refine ⟨scope, found, ?_⟩
    split at h
    · cases h
    · split at h
      · cases h
        exact .inl ⟨_, _, rfl, fun empty => absurd empty filled⟩
      · unfold hidingFilter? at h
        dsimp only at h
        split at h
        · split at h
          · split at h
            · cases h
            · rename_i admitted
              cases h
              refine .inl ⟨_, _, rfl, fun empty => ?_⟩
              simpa [empty] using admitted
          · cases h
        · split at h
          · cases h
          · cases h
            exact .inr ⟨_, filled, rfl⟩

theorem CosmeticLine.cosmeticScope?_of_filter? {line : CosmeticLine} {filter : Filter}
    (h : line.filter? = some filter) : cosmeticScope? line.domains = some filter.scope := by
  obtain ⟨scope, found, ⟨_, _, rfl, -⟩ | ⟨_, -, rfl⟩⟩ := filter?_eq_some h
  · exact found
  · exact found

/-! ## Lines of either format -/

/-- A filter of an ad-filter line is that of its cosmetic separator, or one of a hosts entry, or that
of its pattern. -/
theorem mem_adblockLine_cases {line : List Char} {filter : Filter}
    (member : filter ∈ (adblockLine line).filters) :
    (∃ cosmetic, splitCosmetic? line = some cosmetic ∧ cosmetic.filter? = some filter) ∨
    (splitCosmetic? line = none ∧ looksLikeHostsEntry line ∧ filter ∈ (hostsLine line).filters) ∨
    (∃ network, splitCosmetic? line = none ∧ looksLikeHostsEntry line = false ∧
      networkOfLine? line = some network ∧ filter = .network network) := by
  unfold adblockLine at member
  split at member
  · cases member
  · split at member
    · rename_i cosmetic cut
      exact .inl ⟨cosmetic, cut, LineResult.mem_filters_ofFilter?.1 member⟩
    · rename_i uncut
      split at member
      · cases member
      · split at member
        · rename_i hosts
          exact .inr (.inl ⟨uncut, hosts, member⟩)
        · rename_i noHosts
          split at member
          · cases member
          · obtain ⟨network, read, rfl⟩ :=
              Option.map_eq_some_iff.1 (LineResult.mem_filters_ofFilter?.1 member)
            exact .inr (.inr ⟨network, uncut, Bool.not_eq_true _ ▸ noHosts, read, rfl⟩)

/-- The network filter of a single text is that of the text without white space around it. -/
theorem networkOfLine?_of_network? {text : String} {filter : NetworkFilter}
    (h : network? text = some filter) :
    networkOfLine? (Text.trim text.toList) = some filter := by
  unfold network? at h
  dsimp only at h
  split at h
  · cases h
  · exact h

/-- A trimmed line that looks like an entry begins like an address. -/
theorem head?_of_looksLikeHostsEntry {line : List Char} (trimmed : Text.trim line = line)
    (entry : looksLikeHostsEntry line) : ∃ c ∈ line.head?, c ∈ ['0', '1', ':'] := by
  obtain ⟨word, isFirst, sink⟩ := (Option.any_eq_true _ _).1 entry
  obtain ⟨rest, split⟩ := List.head?_eq_some_iff.1 isFirst
  rw [← trimmed, head?_of_words split]
  exact head?_of_isSinkAddress sink

/-- What an ad-filter list does with a trimmed line that looks like a hosts entry. -/
theorem adblockLine_of_looksLikeHostsEntry {line : List Char} (trimmed : Text.trim line = line)
    (entry : looksLikeHostsEntry line) : adblockLine line =
      (splitCosmetic? line).elim (hostsLine line) fun cosmetic => .ofFilter? cosmetic.filter? := by
  obtain ⟨c, first, begins⟩ := head?_of_looksLikeHostsEntry trimmed entry
  have apart : ∀ c ∈ ['0', '1', ':'], c ∉ ['!', '[', '#'] := by simp
  have other : ∀ d ∈ ['!', '[', '#'], line.head? ≠ some d := by
    rintro d among same
    obtain rfl := Option.some.inj (first.symm.trans same)
    exact apart c begins among
  have filled : line ≠ [] := by
    rintro rfl
    cases first
  simp only [List.forall_mem_cons] at other
  unfold adblockLine
  rw [if_neg (by simp [isComment, filled, other]), if_neg (by simp [other]), if_pos entry]
  cases splitCosmetic? line <;> rfl

theorem exists_line_of_mem_ofText {format : ListFormat} {text : String} {filter : Filter}
    (member : filter ∈ (ParsedList.ofText format text).filters) :
    ∃ line, filter ∈ (readLine format line).filters := by
  obtain ⟨result, read, among⟩ := List.mem_flatMap.1 member
  obtain ⟨line, -, rfl⟩ := List.mem_map.1 read
  exact ⟨line, among⟩

end Filter

namespace ParsedList

/-- The list of one line. -/
def ofLine (result : LineResult) : ParsedList :=
  ⟨result.filters, 1, if result = .skipped then 1 else 0⟩

theorem ofText_of_single {format : ListFormat} {text : String}
    (single : (Text.lines text.toList).length = 1) :
    ofText format text = ofLine (Filter.readLine format text.toList) := by
  obtain ⟨line, isLine⟩ := List.length_eq_one_iff.1 single
  have same : Filter.readLine format line = Filter.readLine format text.toList := by
    simp only [Filter.readLine, Text.trim_of_lines isLine]
  rw [ofText, isLine, List.map_singleton, same]
  simp [ofLine, List.countP_cons]

@[simp] theorem filters_ofLine (result : LineResult) : (ofLine result).filters = result.filters := rfl

theorem ofLine_eq_skipped_iff {result : LineResult} :
    ofLine result = ofLine .skipped ↔ result = .skipped := by
  constructor
  · intro same
    have counted := congrArg ParsedList.skipped same
    by_contra other
    simp [ofLine, other] at counted
  · rintro rfl
    rfl

end ParsedList

end ContentFilter
