import ContentFilter.Compilation
import ContentFilter.Proofs.Filter.Reading
import ContentFilter.ResourceType.Lemmas

/-!
# Negated types

What an option such as `~image` changes in the filter of a line: its types and nothing else.  Types that
the line names, or leaves over from the common ones, lose those that are negated.  A line that names no
types has those of the settings, but with the option it has what is left of the common types: the rule
grows by the common types that the settings leave out and the option does not name.
-/

namespace ContentFilter

/-- Whether a rule applies to requests of a type. -/
def CompiledRule.hasType (rule : CompiledRule) (t : ResourceType) : Bool :=
  rule.resourceTypes.all (·.contains t)

namespace Filter

namespace Options

variable {types : ResourceTypes} {token : List Char}

/-! ## One token -/

/-- The types that a token takes away, if it is the option for it. -/
def negated? (token : List Char) : Option ResourceTypes :=
  match Text.lower (Text.trim token) with
  | '~' :: name => ResourceTypes.ofOption? (String.ofList name)
  | _ => Option.none

theorem isEmpty_of_negated? (negates : negated? token = some types) : types.isEmpty = false := by
  unfold negated? at negates
  split at negates
  · exact ResourceTypes.isEmpty_ofOption? negates
  · cases negates

/-- The options with types taken away. -/
def negate (options : Options) (types : ResourceTypes) : Options :=
  { options with negatedTypes := options.negatedTypes.union types }

/-- A name behind `~` takes the types away that the name stands for. -/
theorem addPlain_negated {name : List Char}
    (named : ResourceTypes.ofOption? (String.ofList name) = some types) (options : Options) :
    '=' ∉ name ∧ options.addPlain (String.ofList ('~' :: name)) = some (options.negate types) := by
  generalize option : String.ofList name = text at named
  obtain rfl : name = text.toList := by rw [← option, String.toList_ofList]
  unfold ResourceTypes.ofOption? at named
  split at named <;> cases named <;> exact ⟨by decide, rfl⟩

/-- A text without `=` is a name as a whole. -/
theorem takeWhile_of_not_mem {text : List Char} (noValue : '=' ∉ Text.lower text) :
    text.takeWhile (· != '=') = text :=
  List.takeWhile_eq_self_iff.2 fun c member => by
    rw [bne_iff_ne]
    rintro rfl
    exact noValue (List.mem_map.2 ⟨'=', member, by decide⟩)

/-- A token without a value is read by its name in small letters. -/
theorem addToken_of_not_mem (filled : Text.trim token ≠ [])
    (noValue : '=' ∉ Text.lower (Text.trim token)) (options : Options) :
    options.addToken token = options.addPlain (String.ofList (Text.lower (Text.trim token))) := by
  unfold addToken
  simp only [takeWhile_of_not_mem noValue, List.isEmpty_eq_false_iff.2 filled, List.drop_length]
  rfl

theorem addToken_of_negated? (negates : negated? token = some types) (options : Options) :
    options.addToken token = some (options.negate types) := by
  unfold negated? at negates
  split at negates
  · rename_i name folded
    obtain ⟨unvalued, added⟩ := addPlain_negated negates options
    have filled : Text.trim token ≠ [] := by
      intro none
      rw [none] at folded
      cases folded
    rw [addToken_of_not_mem filled (by simpa [folded] using unvalued), folded, added]
  · cases negates

theorem addType_negate (options : Options) (types : ResourceTypes) (name : String) :
    (options.negate types).addType name = (options.addType name).negate types := by
  unfold addType
  split
  · split
    · rename_i others _
      simp only [negate, ResourceTypes.union_right_comm options.negatedTypes types others]
    · rfl
  · split
    · rfl
    · rfl

theorem addPlain_negate (options : Options) (types : ResourceTypes) (name : String) :
    (options.negate types).addPlain name = (options.addPlain name).map (·.negate types) := by
  unfold addPlain
  split
  · rfl
  · rfl
  · rfl
  · rfl
  · split
    · rfl
    · split
      · rfl
      · exact congrArg some (addType_negate options types name)

theorem addValued_negate (options : Options) (types : ResourceTypes) (name : String)
    (value : List Char) : (options.negate types).addValued name value =
      (options.addValued name value).map (·.negate types) := by
  unfold addValued
  split
  · unfold addDomains
    cases Domain.Scope.ofList? '|' value with
    | none => rfl
    | some scope =>
      simp only [Option.bind_eq_bind, Option.bind_some]
      split
      · rfl
      · rfl
  · split
    · rfl
    · rfl

/-- Types can be taken away before a token is read, or behind it. -/
theorem addToken_negate (options : Options) (types : ResourceTypes) (token : List Char) :
    (options.negate types).addToken token = (options.addToken token).map (·.negate types) := by
  unfold addToken
  dsimp only
  split
  · rfl
  · split
    · exact addValued_negate options types _ _
    · exact addPlain_negate options types _

/-! ## All tokens -/

theorem foldlM_addToken_negate (options : Options) (types : ResourceTypes)
    (tokens : List (List Char)) : tokens.foldlM addToken (options.negate types) =
      (tokens.foldlM addToken options).map (·.negate types) := by
  induction tokens generalizing options with
  | nil => rfl
  | cons token rest ih =>
    rw [List.foldlM_cons, List.foldlM_cons, addToken_negate]
    cases options.addToken token with
    | none => rfl
    | some after => exact ih after

/-- Wherever the option stands among the tokens, it takes its types away from what the others yield. -/
theorem foldlM_insert_negated (negates : negated? token = some types) (options : Options)
    (before after : List (List Char)) : (before ++ token :: after).foldlM addToken options =
      ((before ++ after).foldlM addToken options).map (·.negate types) := by
  rw [List.foldlM_append, List.foldlM_append]
  cases before.foldlM addToken options with
  | none => rfl
  | some front =>
    show (token :: after).foldlM addToken front = (after.foldlM addToken front).map (·.negate types)
    rw [List.foldlM_cons, addToken_of_negated? negates]
    exact foldlM_addToken_negate front types after

/-- The tokens of a clause that are not blank. -/
def tokens (clause : List Char) : List (List Char) :=
  (Text.splitOn ',' clause).filter fun token => !(Text.trim token).isEmpty

theorem foldlM_tokens (options : Options) (clause : List Char) :
    (tokens clause).foldlM addToken options = (Text.splitOn ',' clause).foldlM addToken options := by
  unfold tokens
  induction Text.splitOn ',' clause generalizing options with
  | nil => rfl
  | cons token rest ih =>
    rw [List.filter_cons]
    split
    · rw [List.foldlM_cons, List.foldlM_cons]
      exact bind_congr fun after => ih after
    · rename_i blank
      have skipped : options.addToken token = some options := by
        simp [addToken, by simpa using blank]
      rw [List.foldlM_cons, skipped]
      exact ih options

/-- The types that are left when some are taken away; a filter that names none has the common ones. -/
theorem resourceTypes_negate (options : Options) (filled : types.isEmpty = false) :
    (options.negate types).resourceTypes =
      some ((options.resourceTypes.getD .common).without types) := by
  have left : (options.negatedTypes.union types).isEmpty = false := by
    rw [ResourceTypes.isEmpty, beq_eq_false_iff_ne] at filled ⊢
    exact fun none => filled (UInt32.or_eq_zero_iff.1 none).2
  unfold resourceTypes negate
  dsimp only
  rw [left, Bool.and_false, if_neg Bool.false_ne_true]
  cases options.listedTypes.isEmpty with
  | false => simp [ResourceTypes.without_union]
  | true =>
    cases none : options.negatedTypes.isEmpty with
    | false => simp [ResourceTypes.without_union]
    | true =>
      -- the first types that are taken away are taken from the common ones, not from those of the settings
      have same : options.negatedTypes.union types = types := by
        rw [ResourceTypes.union, eq_of_beq none, UInt32.zero_or]
      rw [same]
      rfl

/-- With one more token that takes types away, a clause has the same options without these types, unless
no types are left. -/
theorem parse?_of_negated? {clause longer : List Char} {before after : List (List Char)}
    {options : Options} (parts : tokens clause = before ++ after)
    (longerParts : tokens longer = before ++ token :: after) (negates : negated? token = some types)
    (read : parse? clause = some options) :
    parse? longer = if ((options.resourceTypes.getD .common).without types).isEmpty then Option.none
      else some (options.negate types) := by
  obtain ⟨whole, added, kept⟩ := Option.bind_eq_some_iff.1 read
  obtain rfl : whole = options := by
    split at kept
    · cases kept
    · exact Option.some.inj kept
  have addedToo : (Text.splitOn ',' longer).foldlM addToken none = some (whole.negate types) := by
    rw [← foldlM_tokens, longerParts, foldlM_insert_negated negates, ← parts, foldlM_tokens, added]
    rfl
  rw [parse?, addedToo]
  show (if _ then _ else _) = _
  rw [resourceTypes_negate whole (isEmpty_of_negated? negates)]
  rfl

end Options

/-! ## Lines -/

variable {line longer token : List Char} {types : ResourceTypes} {filter : NetworkFilter}

/-- The other line has the same pattern, and one more token among its options. -/
structure AddsToken (token line longer : List Char) : Prop where
  isException : (Text.stripStart? ['@', '@'] longer).isSome = (Text.stripStart? ['@', '@'] line).isSome
  pattern : (splitOptions (ruleBody longer)).1 = (splitOptions (ruleBody line)).1
  tokens : ∃ before after, Options.tokens (optionClause line) = before ++ after ∧
    Options.tokens (optionClause longer) = before ++ token :: after

/-- The types that are left of a filter's when some are taken away. -/
def leftTypes (filter : NetworkFilter) (types : ResourceTypes) : ResourceTypes :=
  (filter.resourceTypes.getD .common).without types

/-- The filter restricted to what is left of its types, read from another line. -/
def narrowed (filter : NetworkFilter) (types : ResourceTypes) (longer : List Char) : NetworkFilter :=
  { filter with resourceTypes := some (leftTypes filter types), sourceLine := String.ofList longer }

/-- An option that takes types away changes the types of a filter and nothing else. -/
theorem networkOfLine?_of_addsToken (adds : AddsToken token line longer)
    (negates : Options.negated? token = some types) (read : networkOfLine? line = some filter) :
    networkOfLine? longer =
      if (leftTypes filter types).isEmpty then none else some (narrowed filter types longer) := by
  obtain ⟨before, after, parts, longerParts⟩ := adds.tokens
  rw [networkOfLine?_eq] at read ⊢
  obtain ⟨options, parsed, read⟩ := Option.bind_eq_some_iff.1 read
  obtain ⟨pattern, stored, rfl⟩ := Option.map_eq_some_iff.1 read
  rw [Options.parse?_of_negated? parts longerParts negates parsed]
  by_cases none : (leftTypes (lineFilter line options pattern) types).isEmpty
  · rw [if_pos none]
    exact congrArg (Option.bind · _) (if_pos none)
  · rw [if_neg none]
    refine (congrArg (Option.bind · _) (if_neg none)).trans ?_
    rw [Option.bind_some, adds.pattern]
    show (storedPattern? options.scope _).map _ = _
    rw [stored, Option.map_some, lineFilter,
      Options.resourceTypes_negate options (Options.isEmpty_of_negated? negates), adds.isException]
    rfl

/-! ## Options at the end of a line -/

theorem splitAtDollar_append {escaped : Bool} {s before behind : List Char}
    (split : splitAtDollar escaped s = some (before, behind)) (more : List Char) :
    splitAtDollar escaped (s ++ more) = some (before, behind ++ more) := by
  induction s generalizing escaped before with
  | nil => cases split
  | cons c rest ih =>
    unfold splitAtDollar at split
    rw [List.cons_append, splitAtDollar]
    split at split
    · rename_i dollar
      cases split
      rw [if_pos dollar]
    · rename_i other
      obtain ⟨parts, later, same⟩ := Option.map_eq_some_iff.1 split
      cases same
      rw [if_neg other, ih later]
      rfl

/-- Where no options have begun, they begin at a dollar sign that no backslash stands in front of. -/
theorem splitAtDollar_append_dollar {escaped : Bool} {s : List Char}
    (whole : splitAtDollar escaped s = none) (unescaped : s = [] → escaped = false)
    (last : s.getLast? ≠ some '\\') (more : List Char) :
    splitAtDollar escaped (s ++ '$' :: more) = some (s, more) := by
  induction s generalizing escaped with
  | nil => simp [splitAtDollar, unescaped rfl]
  | cons c rest ih =>
    unfold splitAtDollar at whole
    split at whole
    · cases whole
    · rename_i other
      have unescapedBehind : rest = [] → (c == '\\') = false := by
        rintro rfl
        simpa using last
      have lastBehind : rest.getLast? ≠ some '\\' := by
        cases rest with
        | nil => simp
        | cons d rest => simpa using last
      rw [List.cons_append, splitAtDollar, if_neg other,
        ih (Option.map_eq_none_iff.1 whole) unescapedBehind lastBehind]
      rfl

theorem throughLastSlash_append {s more : List Char} (noSlash : '/' ∉ more) :
    throughLastSlash (s ++ more) = throughLastSlash s := by
  have skipped : ∀ c ∈ more.reverse, (c != '/') = true := by
    intro c member
    rw [bne_iff_ne]
    rintro rfl
    exact noSlash (List.mem_reverse.1 member)
  rw [throughLastSlash, List.reverse_append, List.dropWhile_append_of_pos skipped, throughLastSlash]

theorem literalFront_append {body more : List Char} (noSlash : '/' ∉ more) :
    literalFront (body ++ more) = literalFront body := by
  rw [literalFront, throughLastSlash_append noSlash, literalFront]

theorem drop_literalFront_append {body more : List Char} (noSlash : '/' ∉ more) :
    (body ++ more).drop (literalFront (body ++ more)).length =
      body.drop (literalFront body).length ++ more := by
  rw [literalFront_append noSlash, List.drop_append_of_le_length (literalFront_isPrefix body).length_le]

/-- What is put behind options belongs to them. -/
theorem splitOptions_append {body clause more : List Char} (noSlash : '/' ∉ more)
    (begun : (splitOptions body).2 = some clause) :
    splitOptions (body ++ more) = ((splitOptions body).1, some (clause ++ more)) := by
  rw [splitOptions_eq] at begun ⊢
  rw [drop_literalFront_append noSlash, splitOptions_eq, literalFront_append noSlash]
  cases split : splitAtDollar false (body.drop (literalFront body).length) with
  | none =>
    rw [split] at begun
    cases begun
  | some parts =>
    obtain ⟨before, behind⟩ := parts
    rw [split] at begun
    cases begun
    rw [splitAtDollar_append split more]

/-- What is put behind a dollar sign becomes the options where there are none. -/
theorem splitOptions_append_dollar {body more : List Char} (noSlash : '/' ∉ more)
    (none : (splitOptions body).2 = none) (last : body.getLast? ≠ some '\\') :
    splitOptions (body ++ '$' :: more) = ((splitOptions body).1, some more) := by
  have noSlashBehind : '/' ∉ '$' :: more := by simpa using noSlash
  rw [splitOptions_eq] at none ⊢
  rw [drop_literalFront_append noSlashBehind, splitOptions_eq, literalFront_append noSlashBehind]
  cases split : splitAtDollar false (body.drop (literalFront body).length) with
  | some parts =>
    rw [split] at none
    cases none
  | none =>
    have lastBehind : (body.drop (literalFront body).length).getLast? ≠ some '\\' := by
      rw [List.getLast?_drop]
      split
      · simp
      · exact last
    rw [splitAtDollar_append_dollar split (fun _ => rfl) lastBehind]
    dsimp only
    rw [List.prefix_iff_eq_append.1 (literalFront_isPrefix body)]

/-- What is put behind a line is put behind its body, unless it begins with white space or with an `@`. -/
theorem ruleBody_append (c : Char) (filled : Unicode.isWhiteSpace c = false) (noMark : c ≠ '@')
    (line more : List Char) :
    (Text.stripStart? ['@', '@'] (line ++ c :: more)).isSome =
        (Text.stripStart? ['@', '@'] line).isSome ∧
      ruleBody (line ++ c :: more) = ruleBody line ++ c :: more := by
  have sameMark : ['@', '@'].isPrefixOf (line ++ c :: more) = ['@', '@'].isPrefixOf line := by
    match line with
    | [] => simp [List.isPrefixOf, Ne.symm noMark]
    | [d] => simp [List.isPrefixOf, Ne.symm noMark]
    | d :: e :: rest => simp [List.isPrefixOf]
  unfold ruleBody Text.stripStart?
  rw [sameMark]
  split
  · rename_i marked
    refine ⟨rfl, ?_⟩
    obtain ⟨rest, rfl⟩ := List.isPrefixOf_iff_prefix.1 marked
    exact Text.trimStart_append filled rest more
  · exact ⟨rfl, rfl⟩

/-- The line with an option at the end: behind a comma if it has options, else behind a dollar sign. -/
def withOption (line token : List Char) : List Char :=
  if (splitOptions (ruleBody line)).2.isSome then line ++ ',' :: token else line ++ '$' :: token

/-- An option at the end adds a token, unless a backslash stands in front of its dollar sign. -/
theorem addsToken_withOption (noSlash : '/' ∉ token) (noComma : ',' ∉ token)
    (filled : (Text.trim token).isEmpty = false)
    (unescaped : (ruleBody line).getLast? ≠ some '\\') :
    AddsToken token line (withOption line token) := by
  have single : Text.splitOn ',' token = [token] := Text.splitBy_of_not fun c member => by
    rw [beq_eq_false_iff_ne]
    rintro rfl
    exact noComma member
  have own : Options.tokens token = [token] := by
    rw [Options.tokens, single, List.filter_cons_of_pos (by simp [filled])]
    rfl
  unfold withOption
  cases begun : (splitOptions (ruleBody line)).2 with
  | some clause =>
    obtain ⟨isException, body⟩ := ruleBody_append ',' (by decide +kernel) (by decide) line token
    have split := splitOptions_append (by simpa using noSlash : '/' ∉ ',' :: token) begun
    have parts : Text.splitOn ',' (clause ++ ',' :: token) =
        Text.splitOn ',' clause ++ Text.splitOn ',' token := Text.splitBy_append (by decide) clause token
    have behind : Options.tokens (clause ++ ',' :: token) = Options.tokens clause ++ [token] := by
      rw [← own, Options.tokens, parts, List.filter_append]
      rfl
    rw [Option.isSome_some, if_pos rfl]
    refine ⟨isException, ?_, Options.tokens clause, [], ?_, ?_⟩
    · rw [body, split]
    · rw [optionClause, begun, Option.getD_some, List.append_nil]
    · rw [optionClause, body, split, Option.getD_some, behind]
  | none =>
    obtain ⟨isException, body⟩ := ruleBody_append '$' (by decide +kernel) (by decide) line token
    have split := splitOptions_append_dollar noSlash begun unescaped
    rw [Option.isSome_none, if_neg Bool.false_ne_true]
    refine ⟨isException, ?_, [], [], ?_, ?_⟩
    · rw [body, split]
    · rw [optionClause, begun]
      rfl
    · rw [optionClause, body, split, Option.getD_some, own]
      rfl

/-! ## Rules -/

variable {config : CompilerConfig} {category : Category} {tier : PriorityTier} {draft : RuleDraft}

theorem ofFilter?_narrowed (types : ResourceTypes) (longer : List Char)
    (drafted : RuleDraft.ofFilter? config category tier filter = some draft) :
    RuleDraft.ofFilter? config category tier (narrowed filter types longer) =
      some { draft with resourceTypes := leftTypes filter types } := by
  unfold RuleDraft.ofFilter? at drafted ⊢
  dsimp only at drafted ⊢
  split at drafted
  · rename_i valid
    cases drafted
    exact if_pos valid
  · cases drafted

theorem hasType_ofFilter? (drafted : RuleDraft.ofFilter? config category tier filter = some draft)
    (id : Nat) (t : ResourceType) :
    (draft.toRule id).hasType t = (filter.resourceTypes.getD config.defaultTypes).contains t := by
  unfold RuleDraft.ofFilter? at drafted
  dsimp only at drafted
  split at drafted
  · cases drafted
    rfl
  · cases drafted

/-- An option that takes types away changes the types of the filter of a line and nothing else, and leaves
no filter if no type is left.  The rule of the filter that is left applies to none of the types that are
taken away.  It applies to no more types than the rule without the option exactly if the line names types
without it too, or if the settings have every common type that the option leaves. -/
theorem narrows_iff_of_addsToken (config : CompilerConfig) (adds : AddsToken token line longer)
    (negates : Options.negated? token = some types) (read : networkOfLine? line = some filter) :
    networkOfLine? longer =
      (if (leftTypes filter types).isEmpty then none else some (narrowed filter types longer)) ∧
    ∀ other category tier wide, networkOfLine? longer = some other →
      RuleDraft.ofFilter? config category tier filter = some wide →
      ∃ narrow, RuleDraft.ofFilter? config category tier other = some narrow ∧ ∀ id otherId,
        (∀ t, types.contains t → ¬ (narrow.toRule otherId).hasType t) ∧
        ((∀ t, (narrow.toRule otherId).hasType t → (wide.toRule id).hasType t) ↔
          filter.resourceTypes.isSome ∨ ∀ t, ResourceTypes.common.contains t →
            types.contains t ∨ config.defaultTypes.contains t) := by
  have readLonger := networkOfLine?_of_addsToken adds negates read
  refine ⟨readLonger, fun other category tier wide found drafted => ?_⟩
  obtain rfl : narrowed filter types longer = other := by
    rw [readLonger] at found
    split at found
    · cases found
    · exact Option.some.inj found
  refine ⟨_, ofFilter?_narrowed types longer drafted, fun id otherId => ?_⟩
  have narrowHas : ∀ t, (({ wide with resourceTypes := leftTypes filter types } : RuleDraft).toRule
      otherId).hasType t = ((filter.resourceTypes.getD .common).contains t && !types.contains t) :=
    fun t => ResourceTypes.contains_without _ _ t
  simp only [narrowHas, hasType_ofFilter? drafted, Bool.and_eq_true, Bool.not_eq_true']
  refine ⟨fun t taken => by simp [taken], ?_⟩
  cases filter.resourceTypes with
  | some named => simp +contextual
  | none =>
    simp only [Option.getD_none, Option.isSome_none, Bool.false_eq_true, false_or]
    constructor
    · intro within t isCommon
      cases taken : types.contains t with
      | true => exact .inl rfl
      | false => exact .inr (within t ⟨isCommon, taken⟩)
    · rintro settled t ⟨isCommon, left⟩
      exact (settled t isCommon).resolve_left (by simp [left])

/-- A line with an option of another kind, under the settings that have all common types. -/
theorem narrows_iff_of_addsToken_thirdParty :
    AddsToken "~Image".toList "-ads-$3p".toList "-ads-$3p,~Image".toList ∧
    Options.negated? "~Image".toList = some (.only .image) ∧
    ∃ filter other wide narrow, networkOfLine? "-ads-$3p".toList = some filter ∧
      networkOfLine? "-ads-$3p,~Image".toList = some other ∧
      RuleDraft.ofFilter? .standard .ads .listBlock filter = some wide ∧
      RuleDraft.ofFilter? .standard .ads .listBlock other = some narrow ∧
      (∀ t, (narrow.toRule 1001).hasType t → (wide.toRule 1000).hasType t) ∧
      (wide.toRule 1000).hasType .image ∧ ¬ (narrow.toRule 1001).hasType .image := by
  have adds : AddsToken "~Image".toList "-ads-$3p".toList (withOption "-ads-$3p".toList "~Image".toList) :=
    addsToken_withOption (by decide) (by decide) (by decide +kernel) (by decide +kernel)
  have longer : withOption "-ads-$3p".toList "~Image".toList = "-ads-$3p,~Image".toList := by
    decide +kernel
  rw [longer] at adds
  have negates : Options.negated? "~Image".toList = some (.only .image) := by decide +kernel
  have read : networkOfLine? "-ads-$3p".toList =
      some { ofPattern "-ads-" with party := some .third, sourceLine := "-ads-$3p" } := by
    decide +kernel
  obtain ⟨wide, drafted⟩ := Option.isSome_iff_exists.1
    (show (RuleDraft.ofFilter? .standard .ads .listBlock
      { ofPattern "-ads-" with party := some .third, sourceLine := "-ads-$3p" }).isSome by decide +kernel)
  obtain ⟨readLonger, rules⟩ := narrows_iff_of_addsToken .standard adds negates read
  have found := readLonger.trans (if_neg (by decide))
  obtain ⟨narrow, draftedToo, types⟩ := rules _ _ _ wide found drafted
  refine ⟨adds, negates, _, _, wide, narrow, read, found, drafted, draftedToo,
    (types 1000 1001).2.2 (.inr fun t isCommon => .inr isCommon), ?_,
    (types 1000 1001).1 .image (by decide)⟩
  rw [hasType_ofFilter? drafted]
  decide

/-- Settings under which filters are for scripts, unless they say otherwise. -/
def scriptsOnly : CompilerConfig := { CompilerConfig.standard with defaultTypes := .only .script }

/-- With an option that takes images away, a line that was for scripts is for fonts as well. -/
theorem hasType_font_of_addsToken :
    scriptsOnly.validate = .ok () ∧
    AddsToken "~image".toList "-ads-".toList "-ads-$~image".toList ∧
    Options.negated? "~image".toList = some (.only .image) ∧
    ∃ other wide narrow, networkOfLine? "-ads-".toList = some (ofPattern "-ads-") ∧
      networkOfLine? "-ads-$~image".toList = some other ∧
      RuleDraft.ofFilter? scriptsOnly .custom .customBlock (ofPattern "-ads-") = some wide ∧
      RuleDraft.ofFilter? scriptsOnly .custom .customBlock other = some narrow ∧
      (narrow.toRule 1000001).hasType .font ∧ ¬ (wide.toRule 1000000).hasType .font := by
  have adds : AddsToken "~image".toList "-ads-".toList (withOption "-ads-".toList "~image".toList) :=
    addsToken_withOption (by decide) (by decide) (by decide +kernel) (by decide +kernel)
  have longer : withOption "-ads-".toList "~image".toList = "-ads-$~image".toList := by decide +kernel
  rw [longer] at adds
  obtain ⟨wide, drafted⟩ := Option.isSome_iff_exists.1
    (show (RuleDraft.ofFilter? scriptsOnly .custom .customBlock (ofPattern "-ads-")).isSome by
      decide +kernel)
  have draftedToo := ofFilter?_narrowed (.only .image) "-ads-$~image".toList drafted
  refine ⟨rfl, adds, by decide +kernel, _, wide, _, by decide +kernel, ?_, drafted, draftedToo, ?_, ?_⟩
  · decide +kernel
  · rw [hasType_ofFilter? draftedToo]
    decide
  · rw [hasType_ofFilter? drafted]
    decide

end Filter

end ContentFilter
