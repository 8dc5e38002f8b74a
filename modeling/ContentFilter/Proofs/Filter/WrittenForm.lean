import ContentFilter.Proofs.Filter.OptionOrder
import ContentFilter.Proofs.Filter.WellFormed

/-!
# Written filters

A well-formed filter is written as a line: `@@` if it is an exception, its pattern, and behind a dollar
sign the options that restrict it, in any order.  The line is read as this filter, unless its pattern would
be taken for something else.
-/

namespace ContentFilter

/-- Steps that never fail are taken one after another. -/
theorem foldlM_eq_some_foldl {α β : Type} {step : β → α → Option β} {next : β → α → β} {list : List α}
    (each : ∀ a ∈ list, ∀ before, step before a = some (next before a)) (start : β) :
    list.foldlM step start = some (list.foldl next start) := by
  induction list generalizing start with
  | nil => rfl
  | cons a rest ih =>
    rw [List.foldlM_cons, each a List.mem_cons_self]
    exact ih (fun b later => each b (List.mem_cons_of_mem a later)) (next start a)

/-! ## Lists of domains -/

namespace Domain

theorem foldl_insertNew_of_nodup (list entries : List String) (distinct : (list ++ entries).Nodup) :
    entries.foldl insertNew list = list ++ entries := by
  induction entries generalizing list with
  | nil => rw [List.foldl_nil, List.append_nil]
  | cons entry rest ih =>
    have new : ¬ list.contains entry := fun old =>
      (List.nodup_append.1 distinct).2.2 entry (List.contains_iff_mem.1 old) entry List.mem_cons_self rfl
    have whole : list ++ entry :: rest = list ++ [entry] ++ rest := by simp
    rw [whole] at distinct ⊢
    rw [List.foldl_cons, insertNew, if_neg new, ih _ distinct]

theorem trim_of_normal {name : String} (normal : normalize? name = some name) :
    Text.trim name.toList = name.toList :=
  Text.trim_eq_self_of_not fun c member =>
    isWhiteSpace_of_isHostChar ((normalize?_eq_some normal).2.2.1 c member)

namespace Scope

variable {scope : Scope}

/-- The tokens of a list of domains that describes the scope. -/
def tokens (scope : Scope) : List (List Char) :=
  scope.includes.map String.toList ++ scope.excludes.map ('~' :: ·.toList)

/-- The scope as a list of domains with bars between them. -/
def written (scope : Scope) : List Char := ['|'].intercalate scope.tokens

theorem eq_everywhere (noInclude : scope.includes = []) (noExclude : scope.excludes = []) :
    scope = everywhere := by
  obtain ⟨includes, excludes⟩ := scope
  subst noInclude noExclude
  rfl

theorem addToken_include {name : String} (normal : normalize? name = some name) (scope : Scope) :
    scope.addToken name.toList = some { scope with includes := insertNew scope.includes name } := by
  obtain ⟨filled, -, hosts, -⟩ := normalize?_eq_some normal
  unfold Scope.addToken
  rw [trim_of_normal normal]
  split
  · rename_i empty
    exact absurd empty filled
  · rename_i rest marked
    exact absurd (hosts '~' (marked ▸ List.mem_cons_self)) (by decide)
  · rw [String.ofList_toList, normal]
    rfl

theorem addToken_exclude {name : String} (normal : normalize? name = some name) (scope : Scope) :
    scope.addToken ('~' :: name.toList) =
      some { scope with excludes := insertNew scope.excludes name } := by
  obtain ⟨-, -, hosts, -⟩ := normalize?_eq_some normal
  have trimmed : Text.trim ('~' :: name.toList) = '~' :: name.toList := by
    refine Text.trim_eq_self_of_not fun c member => ?_
    rcases List.mem_cons.1 member with rfl | inside
    · decide +kernel
    · exact isWhiteSpace_of_isHostChar (hosts c inside)
  unfold Scope.addToken
  rw [trimmed]
  show (normalize? (String.ofList name.toList)).map _ = _
  rw [String.ofList_toList, normal]
  rfl

/-- Domains in normal form are taken in one after another. -/
theorem foldlM_addToken_tokens (normal : ∀ name, name ∈ scope.includes ∨ name ∈ scope.excludes →
    normalize? name = some name) :
    scope.tokens.foldlM addToken everywhere =
      some ⟨scope.includes.foldl insertNew [], scope.excludes.foldl insertNew []⟩ := by
  have included (names : List String) (before : Scope) :
      names.foldl (fun scope name => { scope with includes := insertNew scope.includes name }) before =
        { before with includes := names.foldl insertNew before.includes } := by
    induction names generalizing before with
    | nil => rfl
    | cons name rest ih => exact ih _
  have excluded (names : List String) (before : Scope) :
      names.foldl (fun scope name => { scope with excludes := insertNew scope.excludes name }) before =
        { before with excludes := names.foldl insertNew before.excludes } := by
    induction names generalizing before with
    | nil => rfl
    | cons name rest ih => exact ih _
  rw [tokens, List.foldlM_append, List.foldlM_map,
    foldlM_eq_some_foldl (fun name member => addToken_include (normal name (.inl member))), included]
  show (scope.excludes.map _).foldlM addToken _ = _
  rw [List.foldlM_map,
    foldlM_eq_some_foldl (fun name member => addToken_exclude (normal name (.inr member))), excluded]
  rfl

theorem WellFormed.separate (wellFormed : scope.WellFormed) : scope.separate = scope := by
  have kept : scope.includes.filter (!scope.excludes.contains ·) = scope.includes := by
    refine List.filter_eq_self.2 fun name included => ?_
    simpa using wellFormed.disjoint name included
  rw [Scope.separate, kept]

theorem WellFormed.foldl_insertNew (wellFormed : scope.WellFormed) :
    Scope.mk (scope.includes.foldl insertNew []) (scope.excludes.foldl insertNew []) = scope := by
  rw [foldl_insertNew_of_nodup [] _ wellFormed.nodup_includes,
    foldl_insertNew_of_nodup [] _ wellFormed.nodup_excludes]
  rfl

theorem WellFormed.everywhere_merge (wellFormed : scope.WellFormed) : everywhere.merge scope = scope := by
  rw [merge, everywhere, wellFormed.foldl_insertNew, wellFormed.separate]

/-- The characters of its tokens. -/
theorem WellFormed.of_mem_tokens (wellFormed : scope.WellFormed) {token : List Char}
    (isToken : token ∈ scope.tokens) : ∀ c ∈ token, isHostChar c ∨ c = '~' := by
  intro c member
  rcases List.mem_append.1 isToken with included | excluded
  · obtain ⟨name, among, rfl⟩ := List.mem_map.1 included
    exact .inl ((normalize?_eq_some (wellFormed.normal name (.inl among))).2.2.1 c member)
  · obtain ⟨name, among, rfl⟩ := List.mem_map.1 excluded
    rcases List.mem_cons.1 member with rfl | inside
    · exact .inr rfl
    · exact .inl ((normalize?_eq_some (wellFormed.normal name (.inr among))).2.2.1 c inside)

/-- A written scope is read back. -/
theorem WellFormed.ofList?_written (wellFormed : scope.WellFormed) (restricts : scope ≠ everywhere) :
    ofList? '|' scope.written = some scope := by
  have some : scope.tokens ≠ [] := by
    intro none
    obtain ⟨noInclude, noExclude⟩ := List.append_eq_nil_iff.1 none
    exact restricts (eq_everywhere (List.map_eq_nil_iff.1 noInclude) (List.map_eq_nil_iff.1 noExclude))
  have noBar : ∀ token ∈ scope.tokens, '|' ∉ token := fun token isToken bar =>
    absurd (wellFormed.of_mem_tokens isToken '|' bar) (by decide)
  rw [ofList?, written, Text.splitOn_intercalate some noBar, foldlM_addToken_tokens wellFormed.normal,
    Option.map_some, wellFormed.foldl_insertNew, wellFormed.separate]

end Scope

end Domain

/-! ## Options -/

/-- The option for a type. -/
def ResourceType.option : ResourceType → String
  | .mainFrame => "document"
  | .subFrame => "subdocument"
  | .stylesheet => "stylesheet"
  | .script => "script"
  | .image => "image"
  | .font => "font"
  | .object => "object"
  | .xmlHttpRequest => "xmlhttprequest"
  | .ping => "ping"
  | .media => "media"
  | .webSocket => "websocket"
  | .other => "other"

/-- The option for a restriction to a party. -/
def Party.option : Party → String
  | .first => "first-party"
  | .third => "third-party"

namespace Filter

/-- An option of a filter. -/
inductive WrittenOption where
  | type (t : ResourceType)
  | party (meant : Party)
  | important
  | matchCase
  | badfilter
  | domains (scope : Domain.Scope)
deriving DecidableEq, Repr

namespace WrittenOption

/-- The token of an option in a clause. -/
def token : WrittenOption → List Char
  | .type t => t.option.toList
  | .party meant => meant.option.toList
  | .important => "important".toList
  | .matchCase => "match-case".toList
  | .badfilter => "badfilter".toList
  | .domains scope => "domain=".toList ++ scope.written

/-- What an option says. -/
def meaning : WrittenOption → Options.Meaning
  | .type t => .listed (.only t)
  | .party meant => .party meant
  | .important => .important
  | .matchCase => .matchCase
  | .badfilter => .badfilter
  | .domains scope => .domains scope

/-- The options with what one more says. -/
def addTo (options : Options) (option : WrittenOption) : Options := options.extend option.meaning

/-- The domains of an option that has domains are a well-formed scope. -/
def IsValid : WrittenOption → Prop
  | .domains scope => scope.WellFormed ∧ scope ≠ .everywhere
  | _ => True

/-- A character in the token of an option. -/
def isTokenChar (c : Char) : Bool := Domain.isHostChar c || ['~', '|', '='].contains c

theorem of_isTokenChar {c : Char} (isToken : isTokenChar c) :
    Unicode.isWhiteSpace c = false ∧ c ∉ [',', '/', '#'] := by
  have ascii : c.toNat < 128 := by
    rcases Bool.or_eq_true_iff.1 isToken with isHost | mark
    · exact Domain.ascii_of_isHostChar isHost
    · have isMark : c = '~' ∨ c = '|' ∨ c = '=' := by simpa using mark
      rcases isMark with rfl | rfl | rfl <;> decide
  exact Unicode.forall_ascii
    (p := fun c => isTokenChar c → Unicode.isWhiteSpace c = false ∧ c ∉ [',', '/', '#'])
    (by decide +kernel) ascii isToken

/-- Whether a text can be the name of an option, in small letters. -/
def isName (name : List Char) : Bool :=
  !name.isEmpty && name.all fun c => Domain.isHostChar c && c.toLower == c

theorem addToken_of_isName {name : String} (named : isName name.toList) (options : Options) :
    options.addToken name.toList = options.addPlain name := by
  simp only [isName, Bool.and_eq_true, Bool.not_eq_true', List.isEmpty_eq_false_iff, List.all_eq_true,
    beq_iff_eq] at named
  obtain ⟨filled, chars⟩ := named
  have trimmed : Text.trim name.toList = name.toList :=
    Text.trim_eq_self_of_not fun c member => Domain.isWhiteSpace_of_isHostChar (chars c member).1
  have small : Text.lower name.toList = name.toList :=
    Text.lower_eq_self_iff.2 fun c member => (chars c member).2
  have noValue : '=' ∉ name.toList := fun member => absurd (chars '=' member).1 (by decide)
  rw [Options.addToken_of_not_mem (by rwa [trimmed]) (by rwa [trimmed, small]), trimmed, small,
    String.ofList_toList]

/-- An option is a name that stands for what it says, or has domains. -/
theorem cases_token (option : WrittenOption) :
    (∃ name : String, isName name.toList ∧ option.token = name.toList ∧
      ∀ options : Options, options.addPlain name = some (option.addTo options)) ∨
    ∃ scope, option = .domains scope := by
  cases option with
  | type t => exact .inl ⟨t.option, by cases t <;> decide, rfl, fun _ => by cases t <;> rfl⟩
  | party meant =>
    exact .inl ⟨meant.option, by cases meant <;> decide, rfl, fun _ => by cases meant <;> rfl⟩
  | important => exact .inl ⟨"important", by decide, rfl, fun _ => rfl⟩
  | matchCase => exact .inl ⟨"match-case", by decide, rfl, fun _ => rfl⟩
  | badfilter => exact .inl ⟨"badfilter", by decide, rfl, fun _ => rfl⟩
  | domains scope => exact .inr ⟨scope, rfl⟩

theorem isTokenChar_of_mem_token {option : WrittenOption} (valid : option.IsValid) :
    ∀ c ∈ option.token, isTokenChar c := by
  intro c member
  rcases cases_token option with ⟨name, named, isToken, -⟩ | ⟨scope, rfl⟩
  · rw [isToken] at member
    have chars := List.all_eq_true.1 (Bool.and_eq_true_iff.1 named).2 c member
    rw [isTokenChar, (Bool.and_eq_true_iff.1 chars).1, Bool.true_or]
  · have name : ∀ c ∈ "domain=".toList, isTokenChar c := List.all_eq_true.1 (by decide)
    rcases List.mem_append.1 member with front | value
    · exact name c front
    · rcases Text.mem_of_mem_intercalate value with rfl | ⟨token, isToken, inside⟩
      · decide
      · rcases valid.1.of_mem_tokens isToken c inside with isHost | rfl
        · rw [isTokenChar, isHost, Bool.true_or]
        · decide

theorem addToken_domains {scope : Domain.Scope} (valid : (domains scope).IsValid) (options : Options) :
    options.addToken (domains scope).token = some ((domains scope).addTo options) := by
  have trimmed : Text.trim (domains scope).token = (domains scope).token :=
    Text.trim_eq_self_of_not fun c member =>
      (of_isTokenChar (isTokenChar_of_mem_token valid c member)).1
  have some : (scope.includes.isEmpty && scope.excludes.isEmpty) = false := by
    rw [Bool.eq_false_iff]
    intro none
    obtain ⟨noInclude, noExclude⟩ := Bool.and_eq_true_iff.1 none
    exact valid.2 (Domain.Scope.eq_everywhere (List.isEmpty_iff.1 noInclude) (List.isEmpty_iff.1 noExclude))
  have read : options.addToken (domains scope).token = options.addDomains scope.written := by
    unfold Options.addToken
    rw [trimmed]
    rfl
  rw [read, Options.addDomains, valid.1.ofList?_written valid.2, Option.bind_eq_bind, Option.bind_some, some]
  rfl

/-- The token of an option is read as what it says. -/
theorem addToken_token {option : WrittenOption} (valid : option.IsValid) (options : Options) :
    options.addToken option.token = some (option.addTo options) := by
  rcases cases_token option with ⟨name, named, isToken, means⟩ | ⟨scope, rfl⟩
  · rw [isToken, addToken_of_isName named, means]
  · exact addToken_domains valid options

end WrittenOption

end Filter

/-! ## Filters -/

namespace NetworkFilter

open ContentFilter.Filter

variable {filter : NetworkFilter}

/-- The options that restrict the filter or change how it is applied. -/
def writtenOptions (filter : NetworkFilter) : List WrittenOption :=
  (filter.resourceTypes.getD .empty).toTypes.map .type ++ filter.party.toList.map .party ++
    (if filter.important then [.important] else []) ++ (if filter.matchCase then [.matchCase] else []) ++
    (if filter.badfilter then [.badfilter] else []) ++
    if filter.scope = .everywhere then [] else [.domains filter.scope]

/-- The line of a filter with its options in some order. -/
def written (filter : NetworkFilter) (options : List WrittenOption) : List Char :=
  (if filter.isException then ['@', '@'] else []) ++ filter.pattern.toList ++
    if options = [] then [] else '$' :: Options.joined (options.map (·.token))

/-- What is said by the options of a filter. -/
def options (filter : NetworkFilter) : Options where
  scope := filter.scope
  listedTypes := filter.resourceTypes.getD .empty
  negatedTypes := .empty
  party := filter.party
  important := filter.important
  matchCase := filter.matchCase
  badfilter := filter.badfilter

/-- Domains and a party among the options are those of the filter. -/
theorem mem_writtenOptions {option : WrittenOption} (member : option ∈ filter.writtenOptions) :
    match option with
    | .domains scope => scope = filter.scope ∧ scope ≠ .everywhere
    | .party meant => filter.party = some meant
    | _ => True := by
  simp only [writtenOptions, List.mem_append, List.mem_map, List.mem_ite_nil_right,
    List.mem_ite_nil_left, List.mem_singleton, Option.mem_toList] at member
  rcases member with ((((⟨t, -, rfl⟩ | ⟨meant, restricted, rfl⟩) | ⟨-, rfl⟩) | ⟨-, rfl⟩) | ⟨-, rfl⟩) |
    ⟨restricts, rfl⟩
  · trivial
  · exact restricted
  · trivial
  · trivial
  · trivial
  · exact ⟨rfl, restricts⟩

theorem isValid_of_mem_writtenOptions (wellFormed : filter.WellFormed) {option : WrittenOption}
    (member : option ∈ filter.writtenOptions) : option.IsValid := by
  cases option with
  | domains scope =>
    obtain ⟨rfl, restricts⟩ := mem_writtenOptions member
    exact ⟨wellFormed.scope, restricts⟩
  | _ => trivial

/-- No two of the options get in each other's way. -/
theorem compatible_of_mem_writtenOptions {option other : WrittenOption}
    (member : option ∈ filter.writtenOptions) (memberToo : other ∈ filter.writtenOptions)
    (apart : option ≠ other) : option.meaning.Compatible other.meaning := by
  have first := mem_writtenOptions member
  have second := mem_writtenOptions memberToo
  cases option with
  | domains scope =>
    cases other with
    | domains scopeToo => exact absurd (congrArg _ (first.1.trans second.1.symm)) apart
    | _ => trivial
  | party meant =>
    cases other with
    | party meantToo => exact Option.some.inj (first.symm.trans second)
    | _ => trivial
  | _ => trivial

theorem foldl_addTo_types (types : List ResourceType) (before : Options) :
    (types.map WrittenOption.type).foldl WrittenOption.addTo before =
      { before with
        listedTypes := types.foldl (fun set t => set.union (.only t)) before.listedTypes } := by
  induction types generalizing before with
  | nil => rfl
  | cons t rest ih => exact ih _

/-- A flag is set by its option, and left unset without one. -/
theorem foldl_addTo_flag (option : WrittenOption) {before : Options} (after : Bool → Options)
    (unset : after false = before) (set : after true = option.addTo before) (flag : Bool) :
    (if flag then [option] else []).foldl WrittenOption.addTo before = after flag := by
  cases flag with
  | false => exact unset.symm
  | true => exact set.symm

/-- Together the options say what restricts the filter. -/
theorem foldl_addTo_writtenOptions (wellFormed : filter.WellFormed) :
    filter.writtenOptions.foldl WrittenOption.addTo Options.none = filter.options := by
  have types : (filter.resourceTypes.getD .empty).toTypes.foldl (fun set t => set.union (.only t)) .empty =
      filter.resourceTypes.getD .empty := by
    cases named : filter.resourceTypes with
    | none => rfl
    | some types => exact (wellFormed.typesKnown types named).ofTypes_toTypes
  have party (before : Options) (unset : before.party = none) :
      (filter.party.toList.map WrittenOption.party).foldl WrittenOption.addTo before =
        { before with party := filter.party } := by
    cases filter.party with
    | none =>
      show before = { before with party := none }
      rw [← unset]
    | some meant => rfl
  have important (before : Options) (unset : before.important = false) :=
    foldl_addTo_flag .important (fun flag => { before with important := flag })
      (by rw [← unset]) rfl filter.important
  have matchCase (before : Options) (unset : before.matchCase = false) :=
    foldl_addTo_flag .matchCase (fun flag => { before with matchCase := flag })
      (by rw [← unset]) rfl filter.matchCase
  have badfilter (before : Options) (unset : before.badfilter = false) :=
    foldl_addTo_flag .badfilter (fun flag => { before with badfilter := flag })
      (by rw [← unset]) rfl filter.badfilter
  have scope (before : Options) (unset : before.scope = .everywhere) :
      (if filter.scope = .everywhere then [] else [WrittenOption.domains filter.scope]).foldl
        WrittenOption.addTo before = { before with scope := filter.scope } := by
    split
    · rename_i everywhere
      rw [everywhere, ← unset]
      rfl
    · show { before with scope := before.scope.merge filter.scope } = _
      rw [unset, wellFormed.scope.everywhere_merge]
  rw [writtenOptions, List.foldl_append, List.foldl_append, List.foldl_append, List.foldl_append,
    List.foldl_append, foldl_addTo_types, party _ rfl, important _ rfl, matchCase _ rfl, badfilter _ rfl,
    scope _ rfl]
  simp only [Options.none, types, options]

/-- No types are negated, so the options restrict a filter to the types that it names. -/
theorem resourceTypes_options (wellFormed : filter.WellFormed) :
    filter.options.resourceTypes = filter.resourceTypes := by
  cases named : filter.resourceTypes with
  | none => simp [Options.resourceTypes, options, named, ResourceTypes.isEmpty, ResourceTypes.empty]
  | some types =>
    have some := wellFormed.typesLeft types named
    have whole := (wellFormed.typesKnown types named).without_empty
    simp [Options.resourceTypes, options, named, some, whole]

/-- The options of a filter are read from its clause, in whatever order they stand there. -/
theorem parse?_joined_tokens (wellFormed : filter.WellFormed) {options : List WrittenOption}
    (order : options.Perm filter.writtenOptions) :
    Options.parse? (Options.joined (options.map (·.token))) = some filter.options := by
  have valid : ∀ option ∈ options, option.IsValid := fun option member =>
    isValid_of_mem_writtenOptions wellFormed (order.mem_iff.1 member)
  have plain : ∀ token ∈ options.map (·.token), ',' ∉ token := by
    intro token isToken comma
    obtain ⟨option, member, rfl⟩ := List.mem_map.1 isToken
    have isTokenChar := WrittenOption.isTokenChar_of_mem_token (valid option member) ',' comma
    exact absurd isTokenChar (by decide)
  -- no two of them get in each other's way, so they are read as if none had changed its place
  have read : options.foldl WrittenOption.addTo Options.none = filter.options := by
    rw [← foldl_addTo_writtenOptions wellFormed]
    refine order.foldl_eq' (fun option member other memberToo before => ?_) _
    by_cases same : option = other
    · rw [same]
    · exact Options.extend_comm (compatible_of_mem_writtenOptions (order.mem_iff.1 member)
        (order.mem_iff.1 memberToo) same) before
  have left : filter.options.resourceTypes.any (·.isEmpty) = false := by
    rw [resourceTypes_options wellFormed]
    cases named : filter.resourceTypes with
    | none => rfl
    | some types => exact wellFormed.typesLeft types named
  rw [Options.parse?_joined plain, List.foldlM_map,
    foldlM_eq_some_foldl fun option member => WrittenOption.addToken_token (valid option member), read,
    Option.bind_some, Options.checked?, left]
  rfl

end NetworkFilter

/-! ## Lines -/

namespace Filter

variable {filter : NetworkFilter} {options : List WrittenOption}

/-- A pattern that is not taken for something else: a comment, an exception, a cosmetic filter, or one with
options. -/
structure IsWritable (pattern : List Char) : Prop where
  noDollar : '$' ∉ pattern
  noHash : '#' ∉ pattern
  noComment : isComment pattern = false
  noException : ¬ ['@', '@'] <+: pattern
  noBackslash : pattern.getLast? ≠ some '\\'

theorem splitAtDollar_of_not_mem {s : List Char} (noDollar : '$' ∉ s) (escaped : Bool) :
    splitAtDollar escaped s = none := by
  induction s generalizing escaped with
  | nil => rfl
  | cons c rest ih =>
    obtain ⟨other, later⟩ := not_or.1 (mt List.mem_cons.2 noDollar)
    rw [splitAtDollar, if_neg (by simp [Ne.symm other]), ih later]
    rfl

/-- A text without a dollar sign is a pattern without options. -/
theorem splitOptions_of_not_mem {s : List Char} (noDollar : '$' ∉ s) : splitOptions s = (s, none) := by
  rw [splitOptions_eq, splitAtDollar_of_not_mem fun member => noDollar (List.mem_of_mem_drop member)]

/-- The pattern of a well-formed filter is stored as it is. -/
theorem storedPattern?_of_wellFormed (wellFormed : filter.WellFormed) :
    storedPattern? filter.scope filter.pattern.toList = some filter.pattern.toList := by
  have isText {s : List Char} (same : filter.pattern.toList = s) : filter.pattern = String.ofList s := by
    rw [← same, String.ofList_toList]
  have unbroken : filter.pattern.toList.any Unicode.isWhiteSpace = false :=
    List.any_eq_false.2 fun c member => by simp [wellFormed.unbroken c member]
  have filled : filter.pattern.toList ≠ [] := fun empty => wellFormed.nonempty (isText empty)
  have noAnchor : filter.pattern.toList ≠ ['|', '|'] := fun anchor =>
    wellFormed.notAnchor (isText anchor)
  rw [storedPattern?, unbroken]
  by_cases everything : filter.pattern.toList = ['*']
  · have restricted := wellFormed.restricted (isText everything)
    simp [everything, restricted]
  · simp [everything, filled, noAnchor]

theorem written_eq (some : options ≠ []) :
    filter.written options = filter.written [] ++ '$' :: Options.joined (options.map (·.token)) := by
  simp [NetworkFilter.written, some]

section Written

variable (wellFormed : filter.WellFormed) (writable : IsWritable filter.pattern.toList)

include wellFormed

/-- A clause is written in a few characters. -/
theorem of_mem_clause (order : options.Perm filter.writtenOptions) :
    ∀ c ∈ Options.joined (options.map (·.token)), Unicode.isWhiteSpace c = false ∧ c ∉ ['/', '#'] := by
  intro c member
  rcases Text.mem_of_mem_intercalate member with rfl | ⟨token, isToken, inside⟩
  · decide +kernel
  · obtain ⟨option, isOption, rfl⟩ := List.mem_map.1 isToken
    have valid := NetworkFilter.isValid_of_mem_writtenOptions wellFormed (order.mem_iff.1 isOption)
    obtain ⟨filled, other⟩ :=
      WrittenOption.of_isTokenChar (WrittenOption.isTokenChar_of_mem_token valid c inside)
    exact ⟨filled, fun mark => other (List.mem_cons_of_mem ',' mark)⟩

include writable

/-- A written filter without options is its pattern, with a mark if it is an exception. -/
theorem ruleBody_written_nil :
    (Text.stripStart? ['@', '@'] (filter.written [])).isSome = filter.isException ∧
      ruleBody (filter.written []) = filter.pattern.toList := by
  have bare : filter.written [] =
      (if filter.isException then ['@', '@'] else []) ++ filter.pattern.toList := List.append_nil _
  rw [ruleBody, bare]
  cases filter.isException with
  | true =>
    have stripped : Text.stripStart? ['@', '@'] ('@' :: '@' :: filter.pattern.toList) =
        some filter.pattern.toList := rfl
    have trimmed : Text.trimStart filter.pattern.toList = filter.pattern.toList :=
      List.dropWhile_eq_self_iff.2 fun _ => by simp [wellFormed.unbroken _ (List.getElem_mem _)]
    exact ⟨rfl, trimmed⟩
  | false =>
    have unmarked : Text.stripStart? ['@', '@'] filter.pattern.toList = none :=
      if_neg fun marked => writable.noException (List.isPrefixOf_iff_prefix.1 marked)
    simp [unmarked]

theorem hasOptions_written (order : options.Perm filter.writtenOptions) :
    HasOptions filter.isException filter.pattern.toList (options.map (·.token))
      (filter.written options) := by
  obtain ⟨isException, body⟩ := ruleBody_written_nil wellFormed writable
  have alone := splitOptions_of_not_mem writable.noDollar
  by_cases none : options = []
  · subst none
    refine ⟨isException, ?_, ?_⟩
    · rw [body, alone]
    · rw [optionClause, body, alone]
      rfl
  · have noSlash : '/' ∉ Options.joined (options.map (·.token)) := fun slash =>
      (of_mem_clause wellFormed order '/' slash).2 List.mem_cons_self
    obtain ⟨sameMark, bodyToo⟩ := ruleBody_append '$' (by decide +kernel) (by decide) (filter.written [])
      (Options.joined (options.map (·.token)))
    have split := splitOptions_append_dollar noSlash (congrArg Prod.snd alone) writable.noBackslash
    rw [written_eq none]
    rw [body] at bodyToo
    refine ⟨sameMark.trans isException, ?_, ?_⟩
    · rw [bodyToo, split, alone]
    · rw [optionClause, bodyToo, split]
      rfl

theorem of_mem_written (order : options.Perm filter.writtenOptions) :
    ∀ c ∈ filter.written options, Unicode.isWhiteSpace c = false ∧ c ≠ '#' := by
  have bare : ∀ c ∈ filter.written [], Unicode.isWhiteSpace c = false ∧ c ≠ '#' := by
    intro c member
    rw [NetworkFilter.written, if_pos rfl, List.append_nil, List.mem_append, List.mem_ite_nil_right] at member
    rcases member with ⟨-, mark⟩ | inside
    · obtain rfl : c = '@' := by simpa using mark
      decide +kernel
    · refine ⟨wellFormed.unbroken c inside, ?_⟩
      rintro rfl
      exact writable.noHash inside
  by_cases none : options = []
  · rwa [none]
  · intro c member
    rw [written_eq none, List.mem_append, List.mem_cons] at member
    rcases member with front | rfl | inClause
    · exact bare c front
    · decide +kernel
    · obtain ⟨filled, other⟩ := of_mem_clause wellFormed order c inClause
      exact ⟨filled, by rintro rfl; exact other (by decide)⟩

theorem networkOfLine?_written (order : options.Perm filter.writtenOptions) :
    networkOfLine? (filter.written options) = some (rewritten filter (filter.written options)) := by
  have has := hasOptions_written wellFormed writable order
  have trimmed : Text.trim filter.pattern.toList = filter.pattern.toList :=
    Text.trim_eq_self_of_not wellFormed.unbroken
  rw [has.networkOfLine?, NetworkFilter.parse?_joined_tokens wellFormed order, Option.bind_some, trimmed]
  show (storedPattern? filter.scope _).map _ = _
  rw [storedPattern?_of_wellFormed wellFormed, Option.map_some, lineFilter, has.isException,
    NetworkFilter.resourceTypes_options wellFormed, String.ofList_toList]
  rfl

/-- A written filter begins like an exception, or like its pattern. -/
theorem exists_written_eq_cons (options : List WrittenOption) :
    ∃ c rest, filter.written options = c :: rest ∧ isComment (c :: rest) = false := by
  unfold NetworkFilter.written
  cases filter.isException with
  | true => exact ⟨'@', _, rfl, rfl⟩
  | false =>
    have noComment := writable.noComment
    cases text : filter.pattern.toList with
    | nil =>
      refine absurd ?_ wellFormed.nonempty
      rw [← String.ofList_toList (s := filter.pattern), text]
    | cons c rest =>
      rw [text] at noComment
      exact ⟨c, _, rfl, noComment⟩

/-- A well-formed filter is written as a line that is read as this filter: with `@@` in front of an
exception, and with its options, in any order, behind a dollar sign if it has some. -/
theorem network?_written (order : options.Perm filter.writtenOptions) :
    network? (String.ofList (filter.written options)) =
      some (rewritten filter (filter.written options)) := by
  have chars := of_mem_written wellFormed writable order
  have trimmed : Text.trim (filter.written options) = filter.written options :=
    Text.trim_eq_self_of_not fun c member => (chars c member).1
  have uncut : splitCosmetic? (filter.written options) = none :=
    splitCosmetic?_of_not_mem fun member => (chars '#' member).2 rfl
  have read := networkOfLine?_written wellFormed writable order
  obtain ⟨c, rest, begins, noComment⟩ := exists_written_eq_cons wellFormed writable options
  rw [network?, String.toList_ofList, trimmed, uncut, read, begins, noComment]
  rfl

end Written

/-- An exception with options of every kind. -/
def fullFilter : NetworkFilter where
  pattern := "||Ad.io/*.gif|"
  isException := true
  scope := ⟨["b.io", "a.b.io"], ["c.b.io"]⟩
  resourceTypes := some ((ResourceTypes.only .image).union (.only .mainFrame))
  party := some .first
  important := true
  matchCase := true
  badfilter := true
  sourceLine :=
    "@@||Ad.io/*.gif|$badfilter,image,domain=b.io|a.b.io|~c.b.io,match-case,first-party,document,important"

/-- Its options, in the order in which they stand in its line. -/
def fullOptions : List WrittenOption :=
  [.badfilter, .type .image, .domains ⟨["b.io", "a.b.io"], ["c.b.io"]⟩, .matchCase, .party .first,
   .type .mainFrame, .important]

theorem network?_written_fullFilter :
    fullFilter.WellFormed ∧ IsWritable fullFilter.pattern.toList ∧
      fullOptions.Perm fullFilter.writtenOptions ∧
      String.ofList (fullFilter.written fullOptions) = fullFilter.sourceLine ∧
      network? fullFilter.sourceLine = some fullFilter := by
  have wellFormed : fullFilter.WellFormed := by
    have normal : ∀ name ∈ fullFilter.scope.includes ++ fullFilter.scope.excludes,
        Domain.normalize? name = some name := by decide +kernel
    constructor
    case scope =>
      exact ⟨fun name named => normal name (List.mem_append.2 named), by decide, by decide, by decide⟩
    case nonempty => decide
    case unbroken =>
      intro c member
      exact Bool.eq_false_iff.2 (List.any_eq_false.1 (by decide +kernel) c member)
    case notAnchor => decide
    case restricted => exact fun _ => by decide
    case typesKnown =>
      rintro types ⟨⟩
      exact (ResourceTypes.known_only _).union (ResourceTypes.known_only _)
    case typesLeft =>
      rintro types ⟨⟩
      decide
  have writable : IsWritable fullFilter.pattern.toList :=
    ⟨by decide, by decide, by decide, by decide, by decide⟩
  have order : fullOptions.Perm fullFilter.writtenOptions := by decide
  have line : String.ofList (fullFilter.written fullOptions) = fullFilter.sourceLine := by decide
  have read := network?_written wellFormed writable order
  rw [rewritten, line] at read
  exact ⟨wellFormed, writable, order, line, read⟩

end Filter
end ContentFilter
