import ContentFilter.Proofs.Filter.WellFormed
import ContentFilter.Proofs.FilterPattern.HostAnchor

/-!
# Patterns that find every address

A pattern without a scope must not match everything, and the patterns that are refused for it are three
spellings.  There are others.  Which they are shows on two addresses, one for each scheme of the web: a
pattern that is found in both of them is found in all addresses, because only a wildcard can take their
hosts.
-/

namespace ContentFilter

/-- An address on the web: it has a host, and `http` or `https` in front of it. -/
def Url.IsWeb (url : String) : Prop :=
  ("http://".toList <+: url.toList ∨ "https://".toList <+: url.toList) ∧
    (Url.host? url).isSome ∧ '\n' ∉ url.toList

/-- Whether a rule with this pattern matches a URL, its other conditions aside. -/
def FilterPattern.finds (caseSensitive : Bool) (pattern url : String) : Bool :=
  (load? caseSensitive (translate pattern)).any (·.isMatch url.toList)

/-- Two addresses that have no letter in common but those of all such addresses. -/
def Url.probes : List String := ["http://a", "https://b"]

theorem Url.isWeb_of_mem_probes {probe : String} (member : probe ∈ probes) : IsWeb probe := by
  revert probe
  simp only [probes, List.forall_mem_cons]
  refine ⟨⟨?_, ?_, ?_⟩, ⟨?_, ?_, ?_⟩, by simp⟩ <;> decide +kernel

namespace Glob

variable {caseSensitive : Bool} {glob : Glob} {part : GlobPart} {parts : List GlobPart}
  {front middle behind tail : List Char} {mark : Char}

/-! ## A host that only wildcards can take -/

/-- A letter or digit that no part stands for. -/
structure IsMark (caseSensitive : Bool) (parts : List GlobPart) (mark : Char) : Prop where
  isAlphanum : mark.isAlphanum
  unread : ∀ wanted, .literal wanted ∈ parts → ¬ Accepts caseSensitive wanted mark

theorem IsMark.isHostChar (isMark : IsMark caseSensitive parts mark) : Domain.isHostChar mark := by
  simp [Domain.isHostChar, isMark.isAlphanum]

/-- A part that takes a mark is a wildcard. -/
theorem IsMark.eq_wildcard (isMark : IsMark caseSensitive parts mark) (member : part ∈ parts)
    (takes : Takes caseSensitive part (front ++ [mark]) behind) : part = .wildcard := by
  cases part with
  | wildcard => rfl
  | separator =>
    rcases takes with ⟨c, single, isSeparator⟩ | ⟨empty, -⟩
    · obtain ⟨-, rfl⟩ := List.append_singleton_inj.1 (show front ++ [mark] = [] ++ [c] from single)
      exact absurd isSeparator (not_isSeparator isMark.isHostChar)
    · simp at empty
  | literal wanted =>
    obtain ⟨c, single, accepts⟩ := takes
    obtain ⟨-, rfl⟩ := List.append_singleton_inj.1 (show front ++ [mark] = [] ++ [c] from single)
    exact absurd accepts (isMark.unread wanted member)

/-- What a part takes does not depend on what the URL goes on with, as long as it goes on. -/
theorem takes_behind {taken other : List Char} (takes : Takes caseSensitive part taken behind)
    (goesOn : behind ≠ []) : Takes caseSensitive part taken other := by
  cases part with
  | wildcard => exact takes
  | separator => exact .inl (takes.resolve_right fun atEnd => goesOn atEnd.2)
  | literal wanted => exact takes

theorem fits_behind {other : List Char} (fits : Fits caseSensitive parts middle behind)
    (goesOn : behind ≠ []) : Fits caseSensitive parts middle other := by
  induction parts generalizing middle with
  | nil =>
    cases fits
    exact .nil
  | cons part parts ih =>
    obtain ⟨m₁, m₂, rfl, takes, rest⟩ := fits_cons.1 fits
    have stillGoesOn : m₂ ++ behind ≠ [] := List.append_ne_nil_of_right_ne_nil m₂ goesOn
    exact fits_cons.2 ⟨m₁, m₂, rfl, takes_behind takes stillGoesOn, ih rest⟩

/-- Where parts fit a text that ends with a mark, a wildcard takes the mark, and could take another end
in its place. -/
theorem fits_replace (isMark : IsMark caseSensitive parts mark)
    (fits : Fits caseSensitive parts (middle ++ [mark]) []) (oneLine : '\n' ∉ tail) :
    Fits caseSensitive parts (middle ++ tail) [] := by
  induction parts generalizing middle with
  | nil =>
    generalize whole : middle ++ [mark] = text at fits
    cases fits
    simp at whole
  | cons part parts ih =>
    have later : IsMark caseSensitive parts mark :=
      ⟨isMark.isAlphanum, fun wanted member => isMark.unread wanted (List.mem_cons_of_mem _ member)⟩
    obtain ⟨m₁, m₂, split, takes, rest⟩ := fits_cons.1 fits
    rw [List.append_nil] at takes
    rcases List.append_eq_append_iff.1 split with ⟨taken, isFirst, isMarked⟩ | ⟨left, isMiddle, isLast⟩
    case inr =>
      subst isMiddle isLast
      have goesOn : left ++ [mark] ≠ [] := by simp
      exact fits_cons.2 ⟨m₁, left ++ tail, by simp, takes_behind takes goesOn, ih later rest⟩
    case inl =>
      cases taken with
      | nil =>
        rw [List.append_nil] at isFirst
        rw [List.nil_append] at isMarked
        subst isFirst isMarked
        have behind : Fits caseSensitive parts ([] ++ tail) [] := ih later rest
        exact fits_cons.2 ⟨m₁, tail, rfl, takes_behind takes (by simp), behind⟩
      | cons c taken =>
        -- the part takes the mark itself, with all that stands in front of it
        obtain ⟨rfl, none⟩ := List.cons.inj isMarked
        obtain ⟨rfl, rfl⟩ := List.append_eq_nil_iff.1 none.symm
        subst isFirst
        obtain rfl := isMark.eq_wildcard List.mem_cons_self takes
        have free : '\n' ∉ middle ++ tail := by
          have before : '\n' ∉ middle := fun member => takes (List.mem_append_left _ member)
          simp [before, oneLine]
        exact fits_cons.2 ⟨middle ++ tail, [], by simp, free, rest⟩

theorem eq_of_beginsBehind {before : List Char} {c : Char}
    (begins : BeginsBehind caseSensitive .host (before ++ [c])) : c = '.' ∨ c = '/' := by
  obtain ⟨scheme, labels, whole, isScheme, areLabels⟩ := begins
  rcases areLabels with rfl | ⟨inside, rfl, -⟩
  · rcases isScheme with rfl | ⟨first, rest, rfl, -, -⟩
    · simp at whole
    · have ends : before ++ [c] = (first :: rest ++ ":/".toList) ++ ['/'] := by
        rw [whole]
        simp
      exact .inr (List.append_singleton_inj.1 ends).2
  · rw [← List.append_assoc] at whole
    exact .inl (List.append_singleton_inj.1 whole).2

/-- A glob that begins behind a mark begins anywhere. -/
theorem IsMark.start_eq_anywhere {anchor : GlobStart} (isMark : IsMark caseSensitive parts mark)
    (begins : BeginsBehind caseSensitive anchor (front ++ [mark])) : anchor = .anywhere := by
  cases anchor with
  | anywhere => rfl
  | start => simp [BeginsBehind] at begins
  | host =>
    have isAlphanum := isMark.isAlphanum
    rcases eq_of_beginsBehind begins with rfl | rfl
    · exact absurd isAlphanum (by decide)
    · exact absurd isAlphanum (by decide)

/-- A glob that matches an address of which the host is a mark matches every address that begins like
it. -/
theorem matches_replace (isMark : IsMark caseSensitive glob.parts mark)
    (found : glob.Matches caseSensitive (front ++ [mark])) (oneLine : '\n' ∉ tail) :
    glob.Matches caseSensitive (front ++ tail) := by
  obtain ⟨before, middle, behind, whole, begins, fits, ends⟩ := found
  rcases List.eq_nil_or_concat behind with rfl | ⟨behind, c, rfl⟩
  case inr =>
    -- the mark stands behind what the glob fits
    rw [List.concat_eq_append, ← List.append_assoc] at whole
    obtain ⟨rfl, rfl⟩ := List.append_singleton_inj.1 whole
    have unended : glob.atEnd = false := by
      cases closed : glob.atEnd with
      | false => rfl
      | true => simpa using ends closed
    have goesOn : behind.concat mark ≠ [] := by simp
    exact ⟨before, middle, behind ++ tail, by simp, begins, fits_behind fits goesOn, by simp [unended]⟩
  case inl =>
    rw [List.append_nil] at whole
    rcases List.eq_nil_or_concat middle with rfl | ⟨middle, c, rfl⟩
    case inr =>
      rw [List.concat_eq_append, ← List.append_assoc] at whole
      obtain ⟨rfl, rfl⟩ := List.append_singleton_inj.1 whole
      rw [List.concat_eq_append] at fits
      exact ⟨before, middle ++ tail, [], by simp, begins, fits_replace isMark fits oneLine, ends⟩
    case inl =>
      -- nothing is fitted, at the very end of the address
      rw [List.append_nil] at whole
      subst whole
      have anchor := isMark.start_eq_anywhere begins
      exact ⟨front ++ tail, [], [], by simp, by simp [anchor, BeginsBehind], fits, ends⟩

/-! ## Two addresses stand for all -/

theorem exists_accepts_of_literal {wanted : Char} (fits : Fits caseSensitive parts middle behind)
    (member : .literal wanted ∈ parts) : ∃ c ∈ middle, Accepts caseSensitive wanted c := by
  induction parts generalizing middle with
  | nil => cases member
  | cons part parts ih =>
    obtain ⟨m₁, m₂, rfl, takes, rest⟩ := fits_cons.1 fits
    rcases List.mem_cons.1 member with rfl | later
    · obtain ⟨c, rfl, accepts⟩ := takes
      exact ⟨c, by simp, accepts⟩
    · obtain ⟨c, among, accepts⟩ := ih rest later
      exact ⟨c, List.mem_append_right _ among, accepts⟩

theorem exists_accepts_of_matches {url : List Char} {wanted : Char}
    (found : glob.Matches caseSensitive url) (member : .literal wanted ∈ glob.parts) :
    ∃ c ∈ url, Accepts caseSensitive wanted c := by
  obtain ⟨before, middle, behind, rfl, -, fits, -⟩ := found
  obtain ⟨c, among, accepts⟩ := exists_accepts_of_literal fits member
  exact ⟨c, by simp [among], accepts⟩

/-- A character that passes for letters of both probes. -/
theorem mem_of_accepts_probes {wanted c d : Char} (first : c ∈ "http://a".toList)
    (second : d ∈ "https://b".toList) (accepts : Accepts caseSensitive wanted c)
    (acceptsToo : Accepts caseSensitive wanted d) : wanted ∈ "hHtTpP:/".toList := by
  cases caseSensitive with
  | true =>
    obtain rfl : c = wanted := accepts
    obtain rfl : d = c := acceptsToo
    have all : ("https://b".toList.filter "http://a".toList.contains).all "hHtTpP:/".toList.contains := by
      decide
    have shared := List.mem_filter.2 ⟨second, List.contains_iff_mem.2 first⟩
    exact List.contains_iff_mem.1 (List.all_eq_true.1 all d shared)
  | false =>
    have all : (("https://b".toList.flatMap Unicode.caseOrbit).filter
        ("http://a".toList.flatMap Unicode.caseOrbit).contains).all "hHtTpP:/".toList.contains := by
      decide +kernel
    have inFirst := List.mem_flatMap.2 ⟨c, first, accepts⟩
    have inSecond := List.mem_flatMap.2 ⟨d, second, acceptsToo⟩
    have shared := List.mem_filter.2 ⟨inSecond, List.contains_iff_mem.2 inFirst⟩
    exact List.contains_iff_mem.1 (List.all_eq_true.1 all wanted shared)

/-- The hosts of the probes are marks for a glob that matches both. -/
theorem isMark_of_probes (first : glob.Matches caseSensitive "http://a".toList)
    (second : glob.Matches caseSensitive "https://b".toList) (isHost : mark ∈ ['a', 'b']) :
    IsMark caseSensitive glob.parts mark := by
  have alphanum : ['a', 'b'].all Char.isAlphanum := by decide
  have apart : ∀ wanted ∈ "hHtTpP:/".toList, ¬ Accepts caseSensitive wanted mark := by
    intro wanted among accepts
    cases caseSensitive with
    | true =>
      obtain rfl : mark = wanted := accepts
      have none : "hHtTpP:/".toList.filter ['a', 'b'].contains = [] := by decide
      exact List.filter_eq_nil_iff.1 none mark among (List.contains_iff_mem.2 isHost)
    | false =>
      have none : "hHtTpP:/".toList.filter (['a', 'b'].flatMap Unicode.caseOrbit).contains = [] := by
        decide +kernel
      have inOrbit := List.mem_flatMap.2 ⟨mark, isHost, accepts⟩
      exact List.filter_eq_nil_iff.1 none wanted among (List.contains_iff_mem.2 inOrbit)
  refine ⟨List.all_eq_true.1 alphanum mark isHost, fun wanted member => ?_⟩
  obtain ⟨c, inFirst, accepts⟩ := exists_accepts_of_matches first member
  obtain ⟨d, inSecond, acceptsToo⟩ := exists_accepts_of_matches second member
  exact apart wanted (mem_of_accepts_probes inFirst inSecond accepts acceptsToo)

/-- A glob matches every address on the web if it matches the two probes. -/
theorem matches_isWeb_iff : (∀ url, Url.IsWeb url → glob.Matches caseSensitive url.toList) ↔
    ∀ probe ∈ Url.probes, glob.Matches caseSensitive probe.toList := by
  constructor
  · intro all probe isProbe
    exact all probe (Url.isWeb_of_mem_probes isProbe)
  · intro both url isWeb
    obtain ⟨first, second, -⟩ := (List.forall_mem_cons.trans (and_congr_right' List.forall_mem_cons)).1 both
    have isMark := fun mark (isHost : mark ∈ ['a', 'b']) => isMark_of_probes first second isHost
    rcases isWeb.1 with ⟨tail, whole⟩ | ⟨tail, whole⟩
    all_goals
      have oneLine : '\n' ∉ tail := by
        intro member
        exact isWeb.2.2 (by simp [← whole, member])
      rw [← whole]
    · exact matches_replace (isMark 'a' (by decide)) first oneLine
    · exact matches_replace (isMark 'b' (by decide)) second oneLine

/-- A character of a pattern that is neither an anchor nor a wildcard nor a separator stands for itself. -/
theorem literal_mem_ofText {text : List Char} {c : Char} (member : c ∈ text)
    (plain : c ∉ "*^|".toList) : .literal c ∈ (ofText text).parts := by
  obtain ⟨body, whole, parts, -, -⟩ := isWrittenAs_iff.2 (rfl : ofText text = ofText text)
  have noBar : c ≠ '|' := by
    rintro rfl
    exact plain (by decide)
  have inBody : c ∈ body := by
    rw [whole] at member
    rcases List.mem_append.1 member with anchor | member
    · cases start : (ofText text).start <;> simp [start, opening, noBar] at anchor
    · rcases List.mem_append.1 member with inside | anchor
      · exact inside
      · cases atEnd : (ofText text).atEnd <;> simp [atEnd, closing, noBar] at anchor
  rw [parts]
  refine List.mem_map.2 ⟨c, inBody, ?_⟩
  rw [partOf, if_neg, if_neg]
  · rintro rfl
    exact plain (by decide)
  · rintro rfl
    exact plain (by decide)

end Glob

namespace FilterPattern

/-- Some address on the web is not matched by a rule with this pattern. -/
def LeavesOut (caseSensitive : Bool) (pattern : String) : Prop :=
  ∃ url, Url.IsWeb url ∧ finds caseSensitive pattern url = false

variable {caseSensitive : Bool} {pattern : String}

/-- A pattern that is no regular expression finds what its glob matches, if it can be loaded. -/
theorem finds_iff (isGlob : regexLiteral? (Text.trim pattern.toList) = none) {url : String} :
    finds caseSensitive pattern url ↔ (load? caseSensitive (translate pattern)).isSome ∧
      (Glob.ofText (Text.trim pattern.toList)).Matches caseSensitive url.toList := by
  have translated : (translate pattern).toList =
      (Glob.ofText (Text.trim pattern.toList)).regexText := by
    rw [translate, String.toList_ofList, translateChars, isGlob]
  have writable := Glob.writable_ofText (Text.trim pattern.toList)
  rw [finds, load?, translated, Glob.compile_regexText caseSensitive writable]
  split
  · simp [Glob.isMatch_toRegex]
  · simp

/-- Whether a pattern leaves an address out shows on the two probes. -/
theorem leavesOut_iff_probes (isGlob : regexLiteral? (Text.trim pattern.toList) = none) :
    LeavesOut caseSensitive pattern ↔
      ∃ probe ∈ Url.probes, finds caseSensitive pattern probe = false := by
  by_cases loads : (load? caseSensitive (translate pattern)).isSome
  · have finds_eq_false (url : String) : finds caseSensitive pattern url = false ↔
        ¬ (Glob.ofText (Text.trim pattern.toList)).Matches caseSensitive url.toList := by
      rw [← Bool.not_eq_true, finds_iff isGlob, and_iff_right loads]
    simp only [LeavesOut, finds_eq_false]
    simpa using not_congr Glob.matches_isWeb_iff
  · have nothing (url : String) : finds caseSensitive pattern url = false := by
      rw [← Bool.not_eq_true, finds_iff isGlob]
      exact fun found => loads found.1
    refine iff_of_true ⟨"http://a", ?_, nothing _⟩ ⟨"http://a", by decide, nothing _⟩
    exact Url.isWeb_of_mem_probes (by decide)

/-- A pattern with a character of its own, one that not all addresses on the web have, leaves out
some. -/
theorem leavesOut_of_mem (isGlob : regexLiteral? (Text.trim pattern.toList) = none) {c : Char}
    (member : c ∈ Text.trim pattern.toList) (own : c ∉ "*^|hHtTpP:/".toList) :
    LeavesOut caseSensitive pattern := by
  rw [leavesOut_iff_probes isGlob]
  by_contra both
  simp only [not_exists, not_and, Bool.not_eq_false, finds_iff isGlob, Url.probes,
    List.forall_mem_cons] at both
  obtain ⟨⟨-, first⟩, ⟨-, second⟩, -⟩ := both
  have isPart : .literal c ∈ (Glob.ofText (Text.trim pattern.toList)).parts :=
    Glob.literal_mem_ofText member fun mark => own (List.mem_append_left "hHtTpP:/".toList mark)
  obtain ⟨d, inFirst, accepts⟩ := Glob.exists_accepts_of_matches first isPart
  obtain ⟨e, inSecond, acceptsToo⟩ := Glob.exists_accepts_of_matches second isPart
  have shared := Glob.mem_of_accepts_probes inFirst inSecond accepts acceptsToo
  exact own (List.mem_append_right "*^|".toList shared)

end FilterPattern

namespace Filter

/-- The pattern of a line without a scope is none of the three that are refused there.  If it is no
regular expression, it leaves an address out exactly if it leaves out one of the probes; and it does so
if it has a character that is neither a mark of a pattern nor a part of every address. -/
theorem leavesOut_iff {line : List Char} {filter : NetworkFilter}
    (member : .network filter ∈ (readLine .adblock line).filters)
    (unscoped : filter.scope.includes = [])
    (isGlob : FilterPattern.regexLiteral? filter.pattern.toList = none) (caseSensitive : Bool) :
    filter.pattern ∉ ["", "*", "||"] ∧
      (FilterPattern.LeavesOut caseSensitive filter.pattern ↔
        ∃ probe ∈ Url.probes, FilterPattern.finds caseSensitive filter.pattern probe = false) ∧
      ((∃ c ∈ filter.pattern.toList, c ∉ "*^|hHtTpP:/".toList) →
        FilterPattern.LeavesOut caseSensitive filter.pattern) := by
  have wellFormed : filter.WellFormed := wellFormed_of_mem_readLine member
  have trimmed : Text.trim filter.pattern.toList = filter.pattern.toList :=
    Text.trim_eq_self_of_not wellFormed.unbroken
  rw [← trimmed] at isGlob
  refine ⟨?_, FilterPattern.leavesOut_iff_probes isGlob, ?_⟩
  · simp only [List.mem_cons, List.not_mem_nil, or_false, not_or]
    exact ⟨wellFormed.nonempty, fun everything => wellFormed.restricted everything unscoped,
      wellFormed.notAnchor⟩
  · rintro ⟨c, among, own⟩
    rw [← trimmed] at among
    exact FilterPattern.leavesOut_of_mem isGlob among own

theorem leavesOut_iff_secure :
    .network (ofPattern "||https:*") ∈ (readLine .adblock "||https:*".toList).filters ∧
      (ofPattern "||https:*").scope.includes = [] ∧
      FilterPattern.regexLiteral? (ofPattern "||https:*").pattern.toList = none ∧
      ∀ caseSensitive, FilterPattern.LeavesOut caseSensitive (ofPattern "||https:*").pattern := by
  have member : .network (ofPattern "||https:*") ∈
      (readLine .adblock "||https:*".toList).filters := by decide +kernel
  have isGlob : FilterPattern.regexLiteral? (ofPattern "||https:*").pattern.toList = none := by
    decide +kernel
  refine ⟨member, rfl, isGlob, fun caseSensitive => ?_⟩
  exact (leavesOut_iff member rfl isGlob caseSensitive).2.2 ⟨'s', by decide, by decide⟩

/-- Two wildcards are not refused, and match every text. -/
theorem not_leavesOut_wildcards :
    .network (ofPattern "**") ∈ (readLine .adblock "**".toList).filters ∧
      (ofPattern "**").scope.includes = [] ∧
      FilterPattern.regexLiteral? (ofPattern "**").pattern.toList = none ∧
      ∀ caseSensitive, (∀ url, FilterPattern.finds caseSensitive (ofPattern "**").pattern url) ∧
        ¬ FilterPattern.LeavesOut caseSensitive (ofPattern "**").pattern := by
  have isGlob : FilterPattern.regexLiteral? (Text.trim (ofPattern "**").pattern.toList) = none := by
    decide +kernel
  have finds (caseSensitive : Bool) (url : String) :
      FilterPattern.finds caseSensitive (ofPattern "**").pattern url := by
    rw [FilterPattern.finds_iff isGlob]
    constructor
    · cases caseSensitive <;> decide +kernel
    · have glob : Glob.ofText (Text.trim (ofPattern "**").pattern.toList) =
          ⟨.anywhere, [.wildcard, .wildcard], false⟩ := by decide +kernel
      rw [glob]
      exact ⟨url.toList, [], [], by simp, trivial,
        Glob.fits_wildcard_cons.2 ⟨[], [], rfl, by simp,
          Glob.fits_wildcard_cons.2 ⟨[], [], rfl, by simp, .nil⟩⟩, by simp⟩
  refine ⟨by decide +kernel, rfl, by decide +kernel, fun caseSensitive => ⟨finds caseSensitive, ?_⟩⟩
  rintro ⟨url, -, leftOut⟩
  rw [finds caseSensitive url] at leftOut
  cases leftOut

end Filter

end ContentFilter
