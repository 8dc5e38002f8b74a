import Mathlib.Data.List.Basic
import ContentFilter.Proofs.Filter.NegatedTypes
import ContentFilter.Proofs.Optimizer.FirstPlaces

/-!
# The order of options

A token of a clause either makes the whole clause invalid or says one thing, whatever the tokens around
it say.  Two tokens can be swapped unless both list domains or they mean different parties, so where this
does not happen the order of the options has no say in the filter of a line.
-/

namespace ContentFilter.Filter

namespace Options

/-! ## What a token says -/

/-- What a valid token says. -/
inductive Meaning where
  /-- A blank token, or an option that does not count. -/
  | nothing
  | domains (scope : Domain.Scope)
  | party (meant : Party)
  | important
  | matchCase
  | badfilter
  | listed (types : ResourceTypes)
  | negated (types : ResourceTypes)

/-- The options with what one more token says. -/
def extend (options : Options) : Meaning → Options
  | .nothing => options
  | .domains scope => { options with scope := options.scope.merge scope }
  | .party meant => { options with party := some meant }
  | .important => { options with important := true }
  | .matchCase => { options with matchCase := true }
  | .badfilter => { options with badfilter := true }
  | .listed types => { options with listedTypes := options.listedTypes.union types }
  | .negated types => options.negate types

/-- The party that a token means, if it means one. -/
def party? (token : List Char) : Option Party :=
  partyOf? (String.ofList (Text.lower (Text.trim token)))

/-- Domains are said by an option that has a list of them, and a party by the names for it. -/
def Meaning.IsSaidBy (token : List Char) : Meaning → Prop
  | .domains _ => (domains? token).isSome
  | .party meant => party? token = some meant
  | _ => True

/-- The name of a type, with a mark in front that takes it away or without one, says types or nothing. -/
theorem exists_extend_of_addType (name : String) (token : List Char) :
    ∃ meaning : Meaning, meaning.IsSaidBy token ∧
      ∀ options : Options, options.addType name = options.extend meaning := by
  unfold addType
  split
  · rename_i rest _
    cases ResourceTypes.ofOption? (String.ofList rest) with
    | some types => exact ⟨.negated types, trivial, fun _ => rfl⟩
    | none => exact ⟨.nothing, trivial, fun _ => rfl⟩
  · cases ResourceTypes.ofOption? name with
    | some types => exact ⟨.listed types, trivial, fun _ => rfl⟩
    | none => exact ⟨.nothing, trivial, fun _ => rfl⟩

theorem exists_extend_of_addPlain (name : String) {token : List Char}
    (isName : String.ofList (Text.lower (Text.trim token)) = name) :
    (∀ options : Options, options.addPlain name = Option.none) ∨
      ∃ meaning : Meaning, meaning.IsSaidBy token ∧
        ∀ options : Options, options.addPlain name = some (options.extend meaning) := by
  unfold addPlain
  split
  · exact .inr ⟨.important, trivial, fun _ => rfl⟩
  · exact .inr ⟨.matchCase, trivial, fun _ => rfl⟩
  · exact .inr ⟨.matchCase, trivial, fun _ => rfl⟩
  · exact .inr ⟨.badfilter, trivial, fun _ => rfl⟩
  · cases means : partyOf? name with
    | some party => exact .inr ⟨.party party, by rw [Meaning.IsSaidBy, party?, isName, means], fun _ => rfl⟩
    | none =>
      cases unsupported.contains name with
      | true => exact .inl fun _ => rfl
      | false =>
        obtain ⟨meaning, said, same⟩ := exists_extend_of_addType name token
        exact .inr ⟨meaning, said, fun options => congrArg some (same options)⟩

/-- A token is invalid, or says one thing whatever the options are to which it is added. -/
theorem exists_extend_of_addToken (token : List Char) :
    (∀ options : Options, options.addToken token = Option.none) ∨
      ∃ meaning : Meaning, meaning.IsSaidBy token ∧
        ∀ options : Options, options.addToken token = some (options.extend meaning) := by
  unfold addToken
  dsimp only
  split
  · exact .inr ⟨.nothing, trivial, fun _ => rfl⟩
  · split
    · rename_i value behind
      unfold addValued
      split
      · rename_i isList
        unfold addDomains
        cases Domain.Scope.ofList? '|' value with
        | none => exact .inl fun _ => rfl
        | some scope =>
          simp only [Option.bind_eq_bind, Option.bind_some]
          split
          · exact .inl fun _ => rfl
          · refine .inr ⟨.domains scope, ?_, fun _ => rfl⟩
            show (domains? token).isSome
            unfold domains?
            dsimp only
            rw [behind]
            dsimp only
            rw [if_pos isList]
            rfl
      · cases unsupported.contains _ with
        | true => exact .inl fun _ => rfl
        | false => exact .inr ⟨.nothing, trivial, fun _ => rfl⟩
    · rename_i noValue
      refine exists_extend_of_addPlain _ ?_
      have whole := List.drop_eq_nil_iff.1 noValue
      rw [List.IsPrefix.eq_of_length_le (List.takeWhile_prefix _) whole]

/-! ## Swapping tokens -/

/-- Two meanings of which not both are domains, and that are not different parties. -/
def Meaning.Compatible : Meaning → Meaning → Prop
  | .domains _, .domains _ => False
  | .party meant, .party meantToo => meant = meantToo
  | _, _ => True

theorem extend_comm {first second : Meaning} (compatible : first.Compatible second)
    (options : Options) :
    (options.extend first).extend second = (options.extend second).extend first := by
  cases first with
  | domains scope =>
    cases second with
    | domains scopeToo => exact compatible.elim
    | _ => rfl
  | party meant =>
    cases second with
    | party meantToo =>
      have same : meant = meantToo := compatible
      rw [same]
    | _ => rfl
  | listed types =>
    cases second with
    | listed typesToo => simp only [extend, ResourceTypes.union_right_comm options.listedTypes types typesToo]
    | _ => rfl
  | negated types =>
    cases second with
    | negated typesToo =>
      simp only [extend, negate, ResourceTypes.union_right_comm options.negatedTypes types typesToo]
    | _ => rfl
  | _ => cases second <;> rfl

/-- Two tokens that do not both list domains and do not mean different parties. -/
structure Compatible (token other : List Char) : Prop where
  oneList : (domains? token).isSome → (domains? other).isSome = false
  oneParty : ∀ meant ∈ party? token, ∀ meantToo ∈ party? other, meant = meantToo

theorem Compatible.of_isSaidBy {token other : List Char} (compatible : Compatible token other)
    {first second : Meaning} (saidFirst : first.IsSaidBy token) (saidSecond : second.IsSaidBy other) :
    first.Compatible second := by
  cases first with
  | domains scope =>
    cases second with
    | domains scopeToo => exact absurd saidSecond (by simp [Meaning.IsSaidBy, compatible.oneList saidFirst])
    | _ => trivial
  | party meant =>
    cases second with
    | party meantToo => exact compatible.oneParty meant saidFirst meantToo saidSecond
    | _ => trivial
  | _ => trivial

theorem addToken_comm {token other : List Char} (compatible : Compatible token other) (options : Options) :
    (options.addToken token).bind (·.addToken other) = (options.addToken other).bind (·.addToken token) := by
  rcases exists_extend_of_addToken token with invalid | ⟨first, saidFirst, extendsFirst⟩
  · simp [invalid]
  · rcases exists_extend_of_addToken other with invalid | ⟨second, saidSecond, extendsSecond⟩
    · simp [invalid]
    · rw [extendsFirst, extendsSecond, Option.bind_some, Option.bind_some, extendsFirst, extendsSecond,
        extend_comm (compatible.of_isSaidBy saidFirst saidSecond)]

/-- Tokens of which at most one lists domains, and that do not mean different parties. -/
structure OrderFree (tokens : List (List Char)) : Prop where
  oneList : tokens.countP (fun token => (domains? token).isSome) ≤ 1
  oneParty : ∀ token ∈ tokens, ∀ other ∈ tokens,
    ∀ meant ∈ party? token, ∀ meantToo ∈ party? other, meant = meantToo

/-- Different ones of such tokens are compatible. -/
theorem OrderFree.compatible {tokens : List (List Char)} (free : OrderFree tokens)
    {token other : List Char} (member : token ∈ tokens) (memberToo : other ∈ tokens)
    (apart : token ≠ other) : Compatible token other := by
  refine ⟨fun isList => ?_, free.oneParty token member other memberToo⟩
  cases isListToo : (domains? other).isSome with
  | false => rfl
  | true =>
    have single := free.oneList
    rw [List.countP_eq_length_filter] at single
    have first : token ∈ tokens.filter fun token => (domains? token).isSome :=
      List.mem_filter.2 ⟨member, isList⟩
    have second : other ∈ tokens.filter fun token => (domains? token).isSome :=
      List.mem_filter.2 ⟨memberToo, isListToo⟩
    match tokens.filter (fun token => (domains? token).isSome), single, first, second with
    | [only], _, first, second =>
      exact absurd ((List.mem_singleton.1 first).trans (List.mem_singleton.1 second).symm) apart

/-- The order of such tokens does not matter. -/
theorem foldlM_addToken_perm {tokens others : List (List Char)} (free : OrderFree tokens)
    (order : tokens.Perm others) (options : Options) :
    tokens.foldlM addToken options = others.foldlM addToken options := by
  rw [List.foldlM_eq_foldl, List.foldlM_eq_foldl]
  refine order.foldl_eq' (fun token member other memberToo found => ?_) _
  cases found with
  | none => rfl
  | some before =>
    by_cases same : token = other
    · rw [same]
    · exact addToken_comm (free.compatible member memberToo same) before

/-! ## Clauses -/

/-- The clause of tokens, with commas between them. -/
def joined (tokens : List (List Char)) : List Char := [','].intercalate tokens

/-- The options, unless they leave no type. -/
def checked? (options : Options) : Option Options :=
  if options.resourceTypes.any (·.isEmpty) then Option.none else some options

theorem parse?_joined {tokens : List (List Char)} (plain : ∀ token ∈ tokens, ',' ∉ token) :
    parse? (joined tokens) = (tokens.foldlM addToken none).bind checked? := by
  have split : (Text.splitOn ',' (joined tokens)).foldlM addToken none = tokens.foldlM addToken none := by
    cases tokens with
    | nil => rfl
    | cons token rest => rw [joined, Text.splitOn_intercalate (List.cons_ne_nil token rest) plain]
  rw [parse?, split]
  rfl

theorem parse?_joined_perm {tokens others : List (List Char)} (plain : ∀ token ∈ tokens, ',' ∉ token)
    (free : OrderFree tokens) (order : tokens.Perm others) :
    parse? (joined tokens) = parse? (joined others) := by
  have plainToo : ∀ token ∈ others, ',' ∉ token := fun token member =>
    plain token (order.mem_iff.2 member)
  rw [parse?_joined plain, parse?_joined plainToo, foldlM_addToken_perm free order]

/-- Whether a token makes a filter withdraw others. -/
def isBadfilter (token : List Char) : Bool := Text.lower (Text.trim token) == "badfilter".toList

variable {mark : List Char} (marks : isBadfilter mark)

include marks

theorem addToken_of_isBadfilter (options : Options) :
    options.addToken mark = some (options.extend .badfilter) := by
  have folded := eq_of_beq marks
  have filled : Text.trim mark ≠ [] := by
    intro none
    rw [none] at folded
    cases folded
  rw [addToken_of_not_mem filled (by rw [folded]; decide), folded]
  rfl

theorem OrderFree.concat {tokens : List (List Char)} (free : OrderFree tokens) :
    OrderFree (tokens ++ [mark]) := by
  have folded := eq_of_beq marks
  have noValue : '=' ∉ Text.lower (Text.trim mark) := by
    rw [folded]
    decide
  have noDomains : domains? mark = Option.none := by
    unfold domains?
    simp only [takeWhile_of_not_mem noValue, List.drop_length]
  have noParty : party? mark = Option.none := by
    rw [party?, folded]
    rfl
  constructor
  case oneList =>
    rw [List.countP_append, List.countP_singleton, noDomains]
    exact free.oneList
  case oneParty =>
    intro token member other memberToo meant means meantToo meansToo
    have old : ∀ token ∈ tokens ++ [mark], ∀ meant ∈ party? token, token ∈ tokens := by
      intro token member meant means
      rcases List.mem_append.1 member with inside | isMark
      · exact inside
      · rw [List.mem_singleton.1 isMark, noParty] at means
        cases means
    exact free.oneParty token (old token member meant means) other
      (old other memberToo meantToo meansToo) meant means meantToo meansToo

/-- With one more token that makes a filter withdraw others, wherever it stands, a clause has the same
options but for that. -/
theorem parse?_joined_marked {tokens marked : List (List Char)} (plain : ∀ token ∈ tokens, ',' ∉ token)
    (plainMark : ',' ∉ mark) (free : OrderFree tokens) (order : marked.Perm (mark :: tokens)) :
    parse? (joined marked) = (parse? (joined tokens)).map (·.extend .badfilter) := by
  have last : (tokens ++ [mark]).Perm marked :=
    (List.perm_append_singleton mark tokens).trans order.symm
  have plainToo : ∀ token ∈ marked, ',' ∉ token := by
    intro token member
    rcases List.mem_cons.1 (order.mem_iff.1 member) with rfl | inside
    · exact plainMark
    · exact plain token inside
  rw [parse?_joined plain, parse?_joined plainToo, ← foldlM_addToken_perm (free.concat marks) last,
    List.foldlM_append]
  cases tokens.foldlM addToken none with
  | none => rfl
  | some options =>
    show ([mark].foldlM addToken options).bind checked? = (checked? options).map _
    rw [List.foldlM_cons, addToken_of_isBadfilter marks]
    show checked? (options.extend .badfilter) = _
    unfold checked?
    rw [apply_ite (Option.map _)]
    rfl

end Options

/-! ## Lines -/

/-- A line with `@@` in front of it or not, the text of a pattern, and tokens for its options. -/
structure HasOptions (isException : Bool) (pattern : List Char) (tokens : List (List Char))
    (line : List Char) : Prop where
  isException : (Text.stripStart? ['@', '@'] line).isSome = isException
  pattern : (splitOptions (ruleBody line)).1 = pattern
  clause : optionClause line = Options.joined tokens

variable {isException : Bool} {pattern : List Char} {tokens others : List (List Char)}
  {line other : List Char}

theorem HasOptions.networkOfLine? (has : HasOptions isException pattern tokens line) :
    networkOfLine? line = (Options.parse? (Options.joined tokens)).bind fun options =>
      (storedPattern? options.scope (Text.trim pattern)).map (lineFilter line options) := by
  rw [networkOfLine?_eq, has.clause, has.pattern]

/-- Lines with the same pattern text differ by what their clauses say. -/
theorem HasOptions.networkOfLine?_of_parse? (has : HasOptions isException pattern tokens line)
    (hasToo : HasOptions isException pattern others other) (change : Options → Options)
    (kept : ∀ options, (change options).scope = options.scope)
    (parsed : Options.parse? (Options.joined others) =
      (Options.parse? (Options.joined tokens)).map change) {rewrite : NetworkFilter → NetworkFilter}
    (rewrites : ∀ options stored, (Text.stripStart? ['@', '@'] other).isSome =
        (Text.stripStart? ['@', '@'] line).isSome →
      lineFilter other (change options) stored = rewrite (lineFilter line options stored)) :
    Filter.networkOfLine? other = (Filter.networkOfLine? line).map rewrite := by
  rw [has.networkOfLine?, hasToo.networkOfLine?, parsed]
  cases Options.parse? (Options.joined tokens) with
  | none => rfl
  | some options =>
    rw [Option.map_some, Option.bind_some, Option.bind_some, kept]
    cases storedPattern? options.scope (Text.trim pattern) with
    | none => rfl
    | some stored =>
      exact congrArg some (rewrites options stored (hasToo.isException.trans has.isException.symm))

/-- The filter as it is read from another line. -/
def rewritten (filter : NetworkFilter) (line : List Char) : NetworkFilter :=
  { filter with sourceLine := String.ofList line }

/-- The filter that withdraws it, read from another line. -/
def withdrawing (filter : NetworkFilter) (line : List Char) : NetworkFilter :=
  { filter with badfilter := true, sourceLine := String.ofList line }

section Reordered

variable (plain : ∀ token ∈ tokens, ',' ∉ token) (free : Options.OrderFree tokens)

include plain free

/-- With its options in another order, a line is read as the same filter. -/
theorem HasOptions.networkOfLine?_of_perm (has : HasOptions isException pattern tokens line)
    (hasToo : HasOptions isException pattern others other) (order : tokens.Perm others) :
    Filter.networkOfLine? other = (Filter.networkOfLine? line).map (rewritten · other) := by
  refine has.networkOfLine?_of_parse? hasToo id (fun _ => rfl) ?_ ?_
  · rw [← Options.parse?_joined_perm plain free order, Option.map_id_fun, id]
  · intro options stored sameMark
    rw [lineFilter, sameMark]
    rfl

/-- With one more option that withdraws others, a line is read as the filter that withdraws its own. -/
theorem HasOptions.networkOfLine?_of_marked {mark : List Char}
    (has : HasOptions isException pattern tokens line)
    (hasToo : HasOptions isException pattern others other) (marks : Options.isBadfilter mark)
    (plainMark : ',' ∉ mark) (order : others.Perm (mark :: tokens)) :
    Filter.networkOfLine? other = (Filter.networkOfLine? line).map (withdrawing · other) := by
  refine has.networkOfLine?_of_parse? hasToo (·.extend .badfilter) (fun _ => rfl) ?_ ?_
  · exact Options.parse?_joined_marked marks plain plainMark free order
  · intro options stored sameMark
    rw [lineFilter, sameMark]
    rfl

end Reordered

/-- The optimizer does not look at a filter that was read from another line before. -/
theorem kept_rewritten {filter : NetworkFilter} {before behind : List SourcedFilter}
    {first later : SourcedFilter} (member : first ∈ before) (isFirst : first.filter = .network filter)
    (isLater : later.filter = .network (rewritten filter line)) :
    (Optimizer.optimize (before ++ later :: behind)).kept =
      (Optimizer.optimize (before ++ behind)).kept := by
  refine Optimizer.kept_repeated member ?_ ?_
  · rw [Filter.same_iff, isFirst, isLater]
    rfl
  · rw [isFirst, isLater]
    rfl

/-- Nothing that is kept has the key of a filter that is withdrawn. -/
theorem key_ne_of_withdrawing {filter : NetworkFilter} {filters : List SourcedFilter}
    {sourced kept : SourcedFilter} (member : sourced ∈ filters)
    (withdraws : sourced.filter = .network (withdrawing filter line))
    (isKept : kept ∈ (Optimizer.optimize filters).kept) : kept.filter.key ≠ .network filter.key := by
  intro same
  refine Optimizer.not_same_of_mem_kept member ?_ isKept ?_
  · rw [withdraws]
    rfl
  · rw [Filter.same_iff, same, withdraws]
    rfl

/-- Tokens of which at most one lists domains, and that do not mean different parties, say the same in
every order.  So lines that differ in the order of such tokens are read as one filter, of which the
optimizer does not look at the second; and a line that has one more token to withdraw others withdraws
all of them, wherever the token stands. -/
theorem networkOfLine?_reordered (plain : ∀ token ∈ tokens, ',' ∉ token)
    (free : Options.OrderFree tokens) (order : tokens.Perm others) :
    Options.parse? (Options.joined tokens) = Options.parse? (Options.joined others) ∧
    (∀ isException pattern line other, HasOptions isException pattern tokens line →
      HasOptions isException pattern others other →
      networkOfLine? other = (networkOfLine? line).map (rewritten · other) ∧
      ∀ filter twin, networkOfLine? line = some filter → networkOfLine? other = some twin →
        filter.key = twin.key ∧
        ∀ before behind first later, first ∈ before → first.filter = .network filter →
          later.filter = .network twin →
          (Optimizer.optimize (before ++ later :: behind)).kept =
            (Optimizer.optimize (before ++ behind)).kept) ∧
    ∀ isException pattern line other mark marked, HasOptions isException pattern tokens line →
      HasOptions isException pattern marked other → Options.isBadfilter mark → ',' ∉ mark →
      marked.Perm (mark :: others) →
      networkOfLine? other = (networkOfLine? line).map (withdrawing · other) ∧
      ∀ filter twin, networkOfLine? line = some filter → networkOfLine? other = some twin →
        ∀ filters, ∀ sourced ∈ filters, sourced.filter = .network twin →
          ∀ kept ∈ (Optimizer.optimize filters).kept, kept.filter.key ≠ .network filter.key := by
  refine ⟨Options.parse?_joined_perm plain free order, ?_, ?_⟩
  · intro isException pattern line other has hasToo
    have reads := has.networkOfLine?_of_perm plain free hasToo order
    refine ⟨reads, fun filter twin read readToo => ?_⟩
    rw [reads, read, Option.map_some] at readToo
    obtain rfl := Option.some.inj readToo
    refine ⟨rfl, fun before behind first later member isFirst isLater => ?_⟩
    exact kept_rewritten member isFirst isLater
  · intro isException pattern line other mark marked has hasToo marks plainMark orderToo
    have behind : marked.Perm (mark :: tokens) := orderToo.trans (order.symm.cons mark)
    have reads := has.networkOfLine?_of_marked plain free hasToo marks plainMark behind
    refine ⟨reads, fun filter twin read readToo filters sourced member isTwin kept isKept => ?_⟩
    rw [reads, read, Option.map_some] at readToo
    obtain rfl := Option.some.inj readToo
    exact key_ne_of_withdrawing member isTwin isKept

/-- Options of every kind, one of them unknown. -/
def mixedTokens : List (List Char) :=
  ["Script".toList, "from=b.test|~c.b.test".toList, "~image".toList, "nonsense".toList, "3p".toList,
   " ~1p".toList]

/-- The same options in another order. -/
def shuffledTokens : List (List Char) :=
  ["nonsense".toList, " ~1p".toList, "~image".toList, "Script".toList, "3p".toList,
   "from=b.test|~c.b.test".toList]

def mixedLine : String := "||a.test^$Script,from=b.test|~c.b.test,~image,nonsense,3p, ~1p"

def shuffledLine : String := "||a.test^$nonsense, ~1p,~image,Script,3p,from=b.test|~c.b.test"

def withdrawingLine : String := "||a.test^$nonsense, ~1p,~image,BadFilter,Script,3p,from=b.test|~c.b.test"

/-- The filter of both lines, as it is read from the first. -/
def mixedFilter : NetworkFilter :=
  { ofPattern "||a.test^" with
    scope := ⟨["b.test"], ["c.b.test"]⟩
    resourceTypes := some (.only .script)
    party := some .third
    sourceLine := mixedLine }

theorem networkOfLine?_reordered_mixed :
    networkOfLine? mixedLine.toList = some mixedFilter ∧
    networkOfLine? shuffledLine.toList = some (rewritten mixedFilter shuffledLine.toList) ∧
    networkOfLine? withdrawingLine.toList = some (withdrawing mixedFilter withdrawingLine.toList) ∧
    (Optimizer.optimize [⟨0, .ads, .network mixedFilter⟩,
        ⟨1, .trackers, .network (rewritten mixedFilter shuffledLine.toList)⟩]).kept =
      [⟨0, .ads, .network mixedFilter⟩] ∧
    ∀ kept ∈ (Optimizer.optimize [⟨0, .ads, .network mixedFilter⟩,
        ⟨1, .trackers, .network (withdrawing mixedFilter withdrawingLine.toList)⟩]).kept,
      kept.filter.key ≠ .network mixedFilter.key := by
  have plain : ∀ token ∈ mixedTokens, ',' ∉ token := by decide
  have free : Options.OrderFree mixedTokens := ⟨by decide +kernel, by decide +kernel⟩
  have order : mixedTokens.Perm shuffledTokens := by decide
  obtain ⟨-, reorders, withdraws⟩ := networkOfLine?_reordered plain free order
  have has : HasOptions false "||a.test^".toList mixedTokens mixedLine.toList :=
    ⟨by decide, by decide +kernel, by decide +kernel⟩
  have hasToo : HasOptions false "||a.test^".toList shuffledTokens shuffledLine.toList :=
    ⟨by decide, by decide +kernel, by decide +kernel⟩
  have hasMark : HasOptions false "||a.test^".toList (shuffledTokens.insertIdx 3 "BadFilter".toList)
      withdrawingLine.toList := ⟨by decide, by decide +kernel, by decide +kernel⟩
  have read : networkOfLine? mixedLine.toList = some mixedFilter := by decide +kernel
  obtain ⟨reads, collapses⟩ := reorders _ _ _ _ has hasToo
  obtain ⟨readsMark, cancels⟩ := withdraws _ _ _ _ "BadFilter".toList _ has hasMark (by decide +kernel)
    (by decide) (by decide)
  rw [read] at reads readsMark
  refine ⟨read, reads, readsMark, ?_, ?_⟩
  · have same := (collapses _ _ read reads).2 [⟨0, .ads, .network mixedFilter⟩] [] ⟨0, .ads, _⟩
      ⟨1, .trackers, _⟩ List.mem_cons_self rfl rfl
    exact same.trans (by decide +kernel)
  · exact cancels _ _ read readsMark _ ⟨1, .trackers, _⟩ (by simp) rfl

end ContentFilter.Filter
