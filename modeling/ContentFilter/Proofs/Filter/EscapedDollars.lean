import ContentFilter.Proofs.Filter.Reading
import ContentFilter.Proofs.FilterPattern.HostAnchor

/-!
# Escaped dollar signs

A backslash keeps a dollar sign from opening the options of a filter, so a text with one in front of
every dollar sign is read as a pattern without options.  The backslashes stay in the pattern, where they
stand for themselves: the pattern finds the text that was written, not the one that was escaped, and the
two are the same where there is no dollar sign.
-/

namespace ContentFilter

namespace Glob

variable {caseSensitive : Bool} {text : List Char}

/-- The glob of a text that may stand anywhere. -/
def ofLiteral (text : List Char) : Glob :=
  { start := .anywhere, parts := text.map .literal, atEnd := false }

/-- A text without marks is its own glob. -/
theorem ofText_ofLiteral (plain : ∀ c ∈ text, c ∉ ['*', '^', '|']) : ofText text = ofLiteral text := by
  have noBar : '|' ∉ text := fun bar => plain '|' bar (by decide)
  have parts : text.map .literal = text.map partOf := List.map_congr_left fun c member => by
    have other := plain c member
    simp only [List.mem_cons, not_or] at other
    rw [partOf, if_neg other.1, if_neg other.2.1]
  refine (isWrittenAs_iff.1
    ⟨text, (List.append_nil _).symm, parts, fun _ first => ?_, fun _ last => ?_⟩).symm
  · exact noBar (List.mem_of_mem_head? (by simpa [ofLiteral, closing] using first))
  · exact noBar (List.mem_of_mem_getLast? last)

theorem writable_ofLiteral (plain : ∀ c ∈ text, c ∉ ['*', '^', '|']) :
    ∀ part ∈ (ofLiteral text).parts, part.IsWritable := by
  rw [← ofText_ofLiteral plain]
  exact writable_ofText text

theorem fits_text {middle behind : List Char} :
    Fits caseSensitive (text.map .literal) middle behind ↔
      List.Forall₂ (Accepts caseSensitive) text middle := by
  rw [← List.append_nil (text.map _), fits_literals]
  constructor
  · rintro ⟨part, _, rfl, all, ends⟩
    cases ends
    rwa [List.append_nil]
  · exact fun all => ⟨middle, [], (List.append_nil _).symm, all, .nil⟩

/-- Its matches are the texts that pass for it, wherever they stand. -/
theorem matches_ofLiteral {url : List Char} : (ofLiteral text).Matches caseSensitive url ↔
    ∃ part, part <:+: url ∧ List.Forall₂ (Accepts caseSensitive) text part := by
  constructor
  · rintro ⟨before, part, behind, rfl, -, fits, -⟩
    exact ⟨part, ⟨before, behind, rfl⟩, fits_text.1 fits⟩
  · rintro ⟨part, ⟨before, behind, rfl⟩, all⟩
    exact ⟨before, part, behind, rfl, trivial, fits_text.2 all, nofun⟩

/-- A text of ASCII passes for itself. -/
theorem forall₂_accepts_self (ascii : ∀ c ∈ text, c.toNat < 128) :
    List.Forall₂ (Accepts caseSensitive) text text :=
  List.forall₂_same.2 fun c member => accepts_self (ascii c member)

end Glob

namespace Filter

variable {text : List Char}

/-! ## Escaping -/

/-- The text with a backslash in front of every dollar sign. -/
def escapeDollars : List Char → List Char
  | [] => []
  | c :: rest => if c = '$' then '\\' :: '$' :: escapeDollars rest else c :: escapeDollars rest

theorem escapeDollars_cons_of_ne {c : Char} (other : c ≠ '$') (rest : List Char) :
    escapeDollars (c :: rest) = c :: escapeDollars rest := if_neg other

/-- No options begin in an escaped text, whatever stands in front of it. -/
theorem splitAtDollar_escapeDollars (escaped : Bool) (text : List Char) :
    splitAtDollar escaped (escapeDollars text) = none := by
  induction text generalizing escaped with
  | nil => rfl
  | cons c rest ih =>
    by_cases dollar : c = '$'
    · subst dollar
      simp [escapeDollars, splitAtDollar, ih]
    · simp [escapeDollars_cons_of_ne dollar, splitAtDollar, dollar, ih]

theorem mem_of_mem_escapeDollars {c : Char} (member : c ∈ escapeDollars text) :
    c = '\\' ∨ c ∈ text := by
  induction text with
  | nil => cases member
  | cons d rest ih =>
    by_cases dollar : d = '$'
    · subst dollar
      rcases List.mem_cons.1 member with backslash | member
      · exact .inl backslash
      · rcases List.mem_cons.1 member with rfl | later
        · exact .inr List.mem_cons_self
        · exact (ih later).imp_right (List.mem_cons_of_mem _)
    · rw [escapeDollars_cons_of_ne dollar] at member
      rcases List.mem_cons.1 member with rfl | later
      · exact .inr List.mem_cons_self
      · exact (ih later).imp_right (List.mem_cons_of_mem _)

/-- Only where there is no dollar sign nothing is added. -/
theorem escapeDollars_of_not_mem (noDollar : '$' ∉ text) : escapeDollars text = text := by
  induction text with
  | nil => rfl
  | cons c rest ih =>
    obtain ⟨other, later⟩ := not_or.1 (mt List.mem_cons.2 noDollar)
    rw [escapeDollars_cons_of_ne (Ne.symm other), ih later]

/-- A front without backslashes is one of the text that was escaped. -/
theorem isPrefix_of_isPrefix_escapeDollars {front : List Char} (noBackslash : '\\' ∉ front)
    (isFront : front <+: escapeDollars text) : front <+: text := by
  induction front generalizing text with
  | nil => exact List.nil_prefix
  | cons c front ih =>
    obtain ⟨other, later⟩ := not_or.1 (mt List.mem_cons.2 noBackslash)
    cases text with
    | nil => exact isFront
    | cons d rest =>
      by_cases dollar : d = '$'
      · subst dollar
        exact absurd (List.cons_prefix_cons.1 isFront).1.symm other
      · rw [escapeDollars_cons_of_ne dollar, List.cons_prefix_cons] at isFront
        exact List.cons_prefix_cons.2 ⟨isFront.1, ih later isFront.2⟩

theorem length_escapeDollars (text : List Char) :
    (escapeDollars text).length = text.length + text.count '$' := by
  induction text with
  | nil => rfl
  | cons c rest ih =>
    by_cases dollar : c = '$'
    · subst dollar
      simp only [escapeDollars, if_true, List.length_cons, List.count_cons_self, ih]
      omega
    · rw [escapeDollars_cons_of_ne dollar, List.length_cons, List.length_cons, ih,
        List.count_cons_of_ne dollar]
      omega

/-! ## Plain texts -/

/-- A visible character of ASCII that has no meaning of its own in a filter, or is a dollar sign. -/
def isPlainChar (c : Char) : Bool :=
  '!'.toNat ≤ c.toNat && c.toNat ≤ '~'.toNat && !(['*', '^', '|', '#', '\\'].contains c)

/-- A text of such characters that does not begin like a comment, an exception or a regular
expression. -/
structure IsPlain (text : List Char) : Prop where
  ne_nil : text ≠ []
  isPlainChar_of_mem : ∀ c ∈ text, isPlainChar c
  not_mem_of_head : ∀ c ∈ text.head?, c ∉ ['/', '!', '[']
  not_exception : ¬ "@@".toList <+: text

namespace IsPlain

theorem ascii (plain : IsPlain text) : ∀ c ∈ text, c.toNat < 128 := by
  intro c member
  have isPlain := plain.isPlainChar_of_mem c member
  simp only [isPlainChar, Bool.and_eq_true, decide_eq_true_eq] at isPlain
  have tilde : '~'.toNat = 126 := rfl
  omega

/-- What the characters of an escaped text are. -/
theorem of_mem_escapeDollars (plain : IsPlain text) {c : Char} (member : c ∈ escapeDollars text) :
    Unicode.isWhiteSpace c = false ∧ c ∉ ['*', '^', '|', '#'] := by
  have plainChar : ∀ c : Char, c.toNat < 128 → isPlainChar c →
      Unicode.isWhiteSpace c = false ∧ c ∉ ['*', '^', '|', '#'] :=
    fun c ascii => Unicode.forall_ascii (p := fun c => isPlainChar c →
      Unicode.isWhiteSpace c = false ∧ c ∉ ['*', '^', '|', '#']) (by decide +kernel) ascii
  rcases mem_of_mem_escapeDollars member with rfl | inside
  · decide +kernel
  · exact plainChar c (plain.ascii c inside) (plain.isPlainChar_of_mem c inside)

theorem unmarked_escapeDollars (plain : IsPlain text) :
    ∀ c ∈ escapeDollars text, c ∉ ['*', '^', '|'] := fun _ member among =>
  (plain.of_mem_escapeDollars member).2 (List.mem_append_left ['#'] among)

theorem trim_escapeDollars (plain : IsPlain text) :
    Text.trim (escapeDollars text) = escapeDollars text :=
  Text.trim_eq_self_of_not fun _ member => (plain.of_mem_escapeDollars member).1

theorem escapeDollars_ne_nil (plain : IsPlain text) : escapeDollars text ≠ [] := by
  intro none
  have length := length_escapeDollars text
  rw [none, List.length_nil] at length
  exact plain.ne_nil (List.eq_nil_of_length_eq_zero (by omega))

theorem not_mem_of_head_escapeDollars (plain : IsPlain text) :
    ∀ c ∈ (escapeDollars text).head?, c ∉ ['/', '!', '['] := by
  intro c first among
  obtain ⟨rest, whole⟩ := List.head?_eq_some_iff.1 first
  have noBackslash : '\\' ∉ [c] := by
    simp only [List.mem_singleton]
    rintro rfl
    exact absurd among (by decide)
  have begins := isPrefix_of_isPrefix_escapeDollars noBackslash ⟨rest, whole.symm⟩
  exact plain.not_mem_of_head c (List.head?_eq_some_iff.2 (begins.imp fun _ => Eq.symm)) among

end IsPlain

/-! ## Reading -/

/-- An escaped text is a pattern as a whole: it is no regular expression, and has no options. -/
theorem splitOptions_escapeDollars (plain : IsPlain text) :
    splitOptions (escapeDollars text) = (escapeDollars text, none) := by
  have noLiteral : FilterPattern.regexLiteral? (throughLastSlash (escapeDollars text)) = none := by
    rw [Option.eq_none_iff_forall_ne_some]
    intro inner literal
    obtain ⟨-, whole⟩ := FilterPattern.regexLiteral?_eq_some_iff.1 literal
    obtain ⟨behind, split⟩ := throughLastSlash_isPrefix (escapeDollars text)
    have first : (escapeDollars text).head? = some '/' := by
      rw [← split, whole]
      rfl
    exact plain.not_mem_of_head_escapeDollars '/' first (by decide)
  rw [splitOptions, noLiteral]
  simp [splitAtDollar_escapeDollars]

/-- It is stored as it is, since it is no pattern that matches everything. -/
theorem storedPattern?_escapeDollars (plain : IsPlain text) (scope : Domain.Scope) :
    storedPattern? scope (escapeDollars text) = some (escapeDollars text) := by
  have unbroken : (escapeDollars text).any Unicode.isWhiteSpace = false := by
    rw [List.any_eq_false]
    intro c member
    rw [(plain.of_mem_escapeDollars member).1]
    decide
  have notStar : (escapeDollars text == ['*']) = false := by
    rw [beq_eq_false_iff_ne]
    intro star
    exact plain.unmarked_escapeDollars '*' (by simp [star]) (by decide)
  have notBars : (escapeDollars text == ['|', '|']) = false := by
    rw [beq_eq_false_iff_ne]
    intro bars
    exact plain.unmarked_escapeDollars '|' (by simp [bars]) (by decide)
  simp [storedPattern?, unbroken, notStar, notBars, plain.escapeDollars_ne_nil]

theorem networkOfLine?_escapeDollars (plain : IsPlain text) :
    networkOfLine? (escapeDollars text) = some (ofPattern (String.ofList (escapeDollars text))) := by
  have unmarked : Text.stripStart? ['@', '@'] (escapeDollars text) = none := by
    rw [Text.stripStart?, if_neg]
    intro marked
    refine plain.not_exception (isPrefix_of_isPrefix_escapeDollars (by decide) ?_)
    exact List.isPrefixOf_iff_prefix.1 marked
  have whole : ruleBody (escapeDollars text) = escapeDollars text := by
    rw [ruleBody, unmarked]
    rfl
  have noOptions : Options.parse? [] = some Options.none := rfl
  rw [networkOfLine?_eq, optionClause, whole, splitOptions_escapeDollars plain, Option.getD_none,
    noOptions, Option.bind_some, plain.trim_escapeDollars, storedPattern?_escapeDollars plain,
    Option.map_some, lineFilter, unmarked]
  rfl

/-- An escaped text is read as a pattern without options. -/
theorem network?_escapeDollars (plain : IsPlain text) :
    network? (String.ofList (escapeDollars text)) =
      some (ofPattern (String.ofList (escapeDollars text))) := by
  have first := plain.not_mem_of_head_escapeDollars
  have noComment : isComment (escapeDollars text) = false := by
    simp only [isComment, Bool.or_eq_false_iff, beq_eq_false_iff_ne]
    exact ⟨fun mark => first '!' mark (by decide), fun mark => first '[' mark (by decide)⟩
  have noHash : '#' ∉ escapeDollars text := fun hash =>
    (plain.of_mem_escapeDollars hash).2 (by decide)
  rw [network?, String.toList_ofList, plain.trim_escapeDollars, noComment, splitCosmetic?_of_not_mem noHash,
    if_neg (by simp [plain.escapeDollars_ne_nil]), networkOfLine?_escapeDollars plain]

/-- Its translation is that of a glob without marks. -/
theorem translate_escapeDollars (plain : IsPlain text) :
    (FilterPattern.translate (String.ofList (escapeDollars text))).toList =
      (Glob.ofLiteral (escapeDollars text)).regexText := by
  rw [FilterPattern.translate_of_glob, String.toList_ofList, plain.trim_escapeDollars,
    Glob.ofText_ofLiteral plain.unmarked_escapeDollars]
  intro inner _ whole
  rw [String.toList_ofList, plain.trim_escapeDollars] at whole
  exact plain.not_mem_of_head_escapeDollars '/' (by rw [whole]; rfl) (by decide)

/-- A plain text with every dollar sign escaped is read as a pattern without options.  The pattern compiles,
unless the machines are too large, and finds what passes for the escaped text; it finds the text itself
wherever it stands exactly if there is no dollar sign in it. -/
theorem network?_escapeDollars_finds (plain : IsPlain text) :
    network? (String.ofList (escapeDollars text)) =
      some (ofPattern (String.ofList (escapeDollars text))) ∧
    ∃ regex : Regex,
      (∀ maxSize, Regex.compile maxSize true
          (FilterPattern.translate (String.ofList (escapeDollars text))).toList =
        if regex.plan.fits maxSize then some regex else none) ∧
      (∀ url : String, regex.isMatch url.toList ↔ ∃ part, part <:+: url.toList ∧
        List.Forall₂ (Glob.Accepts false) (escapeDollars text) part) ∧
      ((∀ url : String, '\n' ∉ url.toList → text <:+: url.toList → regex.isMatch url.toList) ↔
        '$' ∉ text) := by
  have finds : ∀ url : String,
      ((Glob.ofLiteral (escapeDollars text)).toRegex false).isMatch url.toList ↔
        ∃ part, part <:+: url.toList ∧
          List.Forall₂ (Glob.Accepts false) (escapeDollars text) part := fun url =>
    Glob.isMatch_toRegex.trans Glob.matches_ofLiteral
  refine ⟨network?_escapeDollars plain, (Glob.ofLiteral (escapeDollars text)).toRegex false,
    fun maxSize => ?_, finds, fun all dollar => ?_, fun noDollar url _ inside => ?_⟩
  · rw [translate_escapeDollars plain]
    exact Glob.compile_regexText false (Glob.writable_ofLiteral plain.unmarked_escapeDollars) maxSize
  -- in the text itself there is no room for what passes for the longer one
  · have oneLine : '\n' ∉ text := fun line =>
      absurd (plain.isPlainChar_of_mem _ line) (by decide)
    have found := all (String.ofList text) (by simpa using oneLine) (by simp)
    obtain ⟨part, inside, passes⟩ := (finds _).1 found
    rw [String.toList_ofList] at inside
    have room := inside.length_le
    rw [← passes.length_eq, length_escapeDollars] at room
    have counted := List.count_pos_iff.2 dollar
    omega
  · rw [finds, escapeDollars_of_not_mem noDollar]
    exact ⟨text, inside, Glob.forall₂_accepts_self plain.ascii⟩

/-- The pattern of a text with a price finds the backslash in front of the dollar sign, and not every URL
with the price. -/
theorem network?_escapeDollars_finds_price :
    IsPlain "Ad$1".toList ∧ network? "Ad\\$1" = some (ofPattern "Ad\\$1") ∧
    ∃ regex : Regex,
      (∀ maxSize, Regex.compile maxSize true (FilterPattern.translate "Ad\\$1").toList =
        if regex.plan.fits maxSize then some regex else none) ∧
      regex.isMatch "https://x.io/ad\\$1".toList ∧
      ∃ url : String, '\n' ∉ url.toList ∧ "Ad$1".toList <:+: url.toList ∧
        ¬ regex.isMatch url.toList := by
  have plain : IsPlain "Ad$1".toList :=
    ⟨by decide, List.all_eq_true.1 (by decide), by simp, by decide⟩
  have escaped : escapeDollars "Ad$1".toList = "Ad\\$1".toList := by decide
  have passes : List.Forall₂ (Glob.Accepts false) "Ad\\$1".toList "ad\\$1".toList :=
    (Glob.forall₂_accepts_iff (by simp) (by simp)).2 (by decide)
  obtain ⟨read, regex, compiled, finds, finds_iff⟩ := network?_escapeDollars_finds plain
  rw [escaped, String.ofList_toList] at read compiled
  refine ⟨plain, read, regex, compiled, ?_, ?_⟩
  · rw [finds, escaped]
    exact ⟨"ad\\$1".toList, ⟨"https://x.io/".toList, [], by decide⟩, passes⟩
  · by_contra all
    push Not at all
    exact finds_iff.1 all (by decide)

/-- The pattern that is read from an escaped text misses a URL with the text. -/
theorem not_isMatch_escapedDollar :
    IsPlain "a$b".toList ∧ escapeDollars "a$b".toList = "a\\$b".toList ∧
    network? "a\\$b" = some (ofPattern "a\\$b") ∧
    '\n' ∉ "https://x.io/a$b".toList ∧ "a$b".toList <:+: "https://x.io/a$b".toList ∧
    ∃ regex, FilterPattern.load? false (FilterPattern.translate "a\\$b") = some regex ∧
      ¬ regex.isMatch "https://x.io/a$b".toList := by
  have plain : IsPlain "a$b".toList :=
    ⟨by decide, List.all_eq_true.1 (by decide), by simp, by decide⟩
  have escaped : escapeDollars "a$b".toList = "a\\$b".toList := by decide
  have read := network?_escapeDollars plain
  have translated := translate_escapeDollars plain
  rw [escaped, String.ofList_toList] at read translated
  refine ⟨plain, escaped, read, by decide, ⟨"https://x.io/".toList, [], by decide⟩,
    (Glob.ofLiteral "a\\$b".toList).toRegex false, ?_, ?_⟩
  · rw [FilterPattern.load?, translated,
      Glob.compile_regexText false (Glob.writable_ofLiteral (by simp)), if_pos]
    decide +kernel
  -- the URL has no backslash
  · rw [Glob.isMatch_toRegex, Glob.matches_ofLiteral]
    rintro ⟨part, inside, passes⟩
    have backslash : '\\' ∈ part := Glob.mem_of_accepts passes (by decide) (by decide) (by decide)
    exact absurd (inside.subset backslash) (by decide)

end Filter

end ContentFilter
