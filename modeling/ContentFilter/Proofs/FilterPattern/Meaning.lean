import ContentFilter.Regex.Search.Lemmas
import ContentFilter.Proofs.FilterPattern.Reading
import ContentFilter.Proofs.FilterPattern.Translation
import ContentFilter.Unicode.CaseFolding.Lemmas

/-!
# What the translation of a glob finds

A pattern that is no regular expression is the text of exactly one glob.  Its translation is a regular
expression, and a search for that finds something in a URL exactly if the glob matches the URL.
-/

namespace ContentFilter

open Regex

namespace Glob

variable {caseSensitive : Bool} {before middle behind : List Char}

/-! ## Characters -/

/-- A character of ASCII without letter case accepts itself only. -/
theorem accepts_iff_eq {wanted c : Char} (ascii : wanted.toNat < 128)
    (caseless : wanted.isAlpha = false) : Accepts caseSensitive wanted c ↔ c = wanted := by
  cases caseSensitive with
  | true => exact Iff.rfl
  | false => exact Unicode.mem_caseOrbit_iff_eq ascii caseless

/-- A character of ASCII without letter case passes for itself only. -/
theorem eq_of_accepts {c w : Char} (ascii : c.toNat < 128) (caseless : c.isAlpha = false)
    (accepts : Accepts caseSensitive w c) : w = c := by
  cases caseSensitive with
  | true => exact accepts.symm
  | false =>
    have member : w ∈ Unicode.caseOrbit c := accepts
    rw [Unicode.caseOrbit_of_caseless ascii caseless] at member
    exact List.mem_singleton.1 member

theorem accepts_self {c : Char} (ascii : c.toNat < 128) : Accepts caseSensitive c c := by
  cases caseSensitive with
  | true => exact rfl
  | false => exact (Unicode.mem_caseOrbit_iff_toLower ascii ascii).2 rfl

/-- What ends a host is of ASCII and has no letter case. -/
theorem caseless_of_mem {c : Char} (ends : c ∈ [':', '/', '?', '#']) :
    c.toNat < 128 ∧ c.isAlpha = false := by
  simp only [List.mem_cons, List.not_mem_nil, or_false] at ends
  rcases ends with rfl | rfl | rfl | rfl <;> decide

theorem contains_closed {set : CharSet} {c : Char} : (closed caseSensitive set).contains c ↔
    ∃ wanted, set.contains wanted ∧ Accepts caseSensitive wanted c := by
  cases caseSensitive with
  | true => simp [closed, Modes.fold, Modes.initial, Accepts]
  | false =>
    simp [closed, Modes.fold, Modes.initial, Accepts, CharSet.contains, Alphabet.caseOrbit, and_comm]

theorem contains_singleton {c d : Char} : (CharSet.singleton c).contains d ↔ d = c := by
  simp only [CharSet.singleton, CharSet.contains, Bool.and_eq_true, decide_eq_true_eq]
  constructor
  · rintro ⟨low, high⟩
    exact Char.le_antisymm high low
  · rintro rfl
    exact ⟨Char.le_refl _, Char.le_refl _⟩

theorem contains_closed_singleton {wanted c : Char} :
    (closed caseSensitive (.singleton wanted)).contains c ↔ Accepts caseSensitive wanted c := by
  simp [contains_closed, contains_singleton]

theorem contains_union {a b : CharSet} {c : Char} :
    (CharSet.union a b).contains c = (a.contains c || b.contains c) := rfl

/-- One character of ASCII without letter case. -/
theorem matches_caseless {wanted : Char} (ascii : wanted.toNat < 128)
    (caseless : wanted.isAlpha = false) :
    (Regex.one (closed caseSensitive (.singleton wanted))).Matches before middle behind ↔
      middle = [wanted] := by
  simp [matches_one, contains_closed_singleton, accepts_iff_eq ascii caseless]

theorem contains_upper {c : Char} : (CharSet.range 'A' 'Z').contains c = c.isUpper :=
  (Bool.decide_and _ _).symm

theorem contains_lower {c : Char} : (CharSet.range 'a' 'z').contains c = c.isLower := rfl

theorem contains_digit {c : Char} : (CharSet.range '0' '9').contains c = c.isDigit := rfl

theorem isAlpha_eq (c : Char) : c.isAlpha = (c.isUpper || c.isLower) := rfl

theorem isAlphanum_eq (c : Char) : c.isAlphanum = (c.isUpper || c.isLower || c.isDigit) := rfl

theorem contains_innerSet {c : Char} : innerSet.contains c ↔ isInner c := by
  simp [innerSet, isInner, contains_union, contains_upper, contains_lower, contains_digit,
    contains_singleton, isAlphanum_eq, or_assoc]

theorem contains_schemeStartSet {c : Char} : schemeStartSet.contains c ↔ c.isAlpha := by
  simp [schemeStartSet, contains_union, contains_upper, contains_lower, isAlpha_eq]

theorem contains_schemeSet {c : Char} :
    schemeSet.contains c ↔ c.isAlphanum ∨ c ∈ ['+', '.', '-'] := by
  simp [schemeSet, contains_union, contains_upper, contains_lower, contains_digit,
    contains_singleton, isAlphanum_eq, or_assoc]

theorem contains_separators {c : Char} :
    (CharSet.complement (closed caseSensitive innerSet)).contains c ↔
      IsSeparator caseSensitive c := by
  simp only [CharSet.contains, Bool.not_eq_true', ← Bool.not_eq_true, contains_closed,
    contains_innerSet, IsSeparator, not_exists, not_and]

theorem contains_labels {c : Char} :
    (CharSet.complement (closed caseSensitive hostEndSet)).contains c ↔ c ∉ ['/', '?', '#'] := by
  have ends : (closed caseSensitive hostEndSet).contains c ↔ c ∈ ['/', '?', '#'] := by
    simp only [contains_closed, hostEndSet, contains_union, Bool.or_eq_true, contains_singleton]
    constructor
    · rintro ⟨wanted, rfl | rfl | rfl, accepts⟩
      all_goals
        obtain rfl := (accepts_iff_eq (by decide) (by decide)).1 accepts
        simp
    · intro member
      obtain ⟨ascii, -⟩ := caseless_of_mem (List.mem_cons_of_mem _ member)
      exact ⟨c, by simpa using member, accepts_self ascii⟩
  simp [CharSet.contains, ← Bool.not_eq_true, ends]

/-! ## Parts -/

/-- `Takes caseSensitive part taken behind`: in a URL that goes on with `behind`, the part fits
`taken`. -/
def Takes (caseSensitive : Bool) : GlobPart → List Char → List Char → Prop
  | .wildcard, taken, _ => '\n' ∉ taken
  | .separator, taken, behind =>
    (∃ c, taken = [c] ∧ IsSeparator caseSensitive c) ∨ taken = [] ∧ behind = []
  | .literal wanted, taken, _ => ∃ c, taken = [c] ∧ Accepts caseSensitive wanted c

theorem fits_cons {part : GlobPart} {parts : List GlobPart} :
    Fits caseSensitive (part :: parts) middle behind ↔ ∃ m₁ m₂, middle = m₁ ++ m₂ ∧
      Takes caseSensitive part m₁ (m₂ ++ behind) ∧ Fits caseSensitive parts m₂ behind := by
  constructor
  · intro fits
    cases fits with
    | wildcard oneLine rest => exact ⟨_, _, rfl, oneLine, rest⟩
    | separator isSeparator rest => exact ⟨[_], _, rfl, .inl ⟨_, rfl, isSeparator⟩, rest⟩
    | separatorAtEnd rest => exact ⟨[], [], rfl, .inr ⟨rfl, rfl⟩, rest⟩
    | literal accepts rest => exact ⟨[_], _, rfl, ⟨_, rfl, accepts⟩, rest⟩
  · rintro ⟨m₁, m₂, rfl, takes, rest⟩
    cases part with
    | wildcard => exact .wildcard takes rest
    | separator =>
      rcases takes with ⟨c, rfl, isSeparator⟩ | ⟨rfl, atEnd⟩
      · exact .separator isSeparator rest
      · obtain ⟨rfl, rfl⟩ := List.append_eq_nil_iff.1 atEnd
        exact .separatorAtEnd rest
    | literal wanted =>
      obtain ⟨c, rfl, accepts⟩ := takes
      exact .literal accepts rest

/-- A part takes what its expression matches. -/
theorem matches_part {part : GlobPart} : (part.toRegex caseSensitive).Matches before middle behind ↔
    Takes caseSensitive part middle behind := by
  cases part with
  | wildcard =>
    simp only [GlobPart.toRegex, matches_many, Takes, CharSet.contains, Bool.not_eq_true',
      ← Bool.not_eq_true, contains_singleton]
    constructor
    · exact fun all member => all _ member rfl
    · exact fun none c member same => none (same ▸ member)
  | separator =>
    simp only [GlobPart.toRegex, matches_group, matches_alternate, matches_one, matches_textEnd,
      contains_separators, Takes]
  | literal wanted =>
    simp only [GlobPart.toRegex, matches_one, contains_closed_singleton, Takes]

/-- Parts fit what their expressions match in a row. -/
theorem matches_parts {parts : List GlobPart} :
    (row (parts.map (·.toRegex caseSensitive))).Matches before middle behind ↔
      Fits caseSensitive parts middle behind := by
  induction parts generalizing before middle with
  | nil =>
    rw [List.map_nil, row, matches_empty]
    constructor
    · rintro rfl
      exact .nil
    · rintro ⟨⟩
      rfl
  | cons part parts ih =>
    simp only [List.map_cons, matches_row_cons, matches_part, ih, fits_cons]

theorem fits_wildcard_cons {parts : List GlobPart} :
    Fits caseSensitive (.wildcard :: parts) middle behind ↔ ∃ any rest, middle = any ++ rest ∧
      '\n' ∉ any ∧ Fits caseSensitive parts rest behind := fits_cons

theorem fits_cons_congr {part : GlobPart} {parts others : List GlobPart}
    (same : ∀ middle, Fits caseSensitive parts middle behind ↔
      Fits caseSensitive others middle behind) :
    Fits caseSensitive (part :: parts) middle behind ↔
      Fits caseSensitive (part :: others) middle behind := by
  simp only [fits_cons, same]

/-- Two wildcards side by side fit what one does. -/
theorem fits_wildcard_wildcard {parts : List GlobPart} :
    Fits caseSensitive (.wildcard :: .wildcard :: parts) middle behind ↔
      Fits caseSensitive (.wildcard :: parts) middle behind := by
  constructor
  · intro fits
    obtain ⟨any, _, rfl, oneLine, inside⟩ := fits_wildcard_cons.1 fits
    obtain ⟨more, rest, rfl, stillOneLine, fits⟩ := fits_wildcard_cons.1 inside
    exact fits_wildcard_cons.2 ⟨any ++ more, rest, by simp, by simp [oneLine, stillOneLine], fits⟩
  · intro fits
    exact fits_wildcard_cons.2 ⟨[], middle, rfl, by simp, fits⟩

/-- Parts fit the same with every run of wildcards as one. -/
theorem fits_squeeze (inRun : Bool) {parts : List GlobPart} :
    Fits caseSensitive ((if inRun then [.wildcard] else []) ++ squeeze inRun parts) middle behind ↔
      Fits caseSensitive ((if inRun then [.wildcard] else []) ++ parts) middle behind := by
  induction parts generalizing inRun middle with
  | nil => exact Iff.rfl
  | cons part rest ih =>
    have behindPart : Fits caseSensitive (part :: squeeze false rest) middle behind ↔
        Fits caseSensitive (part :: rest) middle behind := fits_cons_congr fun _ => ih false
    cases part with
    | wildcard =>
      cases inRun with
      | false => exact ih true
      | true => exact (ih true).trans fits_wildcard_wildcard.symm
    | separator | literal =>
      cases inRun with
      | false => exact behindPart
      | true => exact fits_cons_congr fun _ => fits_cons_congr fun _ => ih false

/-! ## Anchors -/

theorem matches_schemePieces :
    (row ((schemePieces caseSensitive).map (·.2))).Matches before middle behind ↔
      IsScheme caseSensitive middle := by
  have colon : ∀ {before middle behind}, (Regex.one (closed caseSensitive (.singleton ':'))).Matches
      before middle behind ↔ middle = [':'] := matches_caseless (by decide) (by decide)
  have slash : ∀ {before middle behind}, (Regex.one (closed caseSensitive (.singleton '/'))).Matches
      before middle behind ↔ middle = ['/'] := matches_caseless (by decide) (by decide)
  have letter : ∀ {before middle behind},
      (Regex.one (closed caseSensitive schemeStartSet)).Matches before middle behind ↔
        ∃ first, middle = [first] ∧ ∃ wanted, wanted.isAlpha ∧ Accepts caseSensitive wanted first := by
    simp only [matches_one, contains_closed, contains_schemeStartSet, implies_true]
  have inside : ∀ {c}, (closed caseSensitive schemeSet).contains c ↔ ∃ wanted,
      (wanted.isAlphanum ∨ wanted ∈ ['+', '.', '-']) ∧ Accepts caseSensitive wanted c := by
    simp only [contains_closed, contains_schemeSet, implies_true]
  simp only [schemePieces, List.map_cons, List.map_nil, matches_row_cons, matches_many, letter,
    inside, colon, slash]
  constructor
  · rintro ⟨_, _, rfl, ⟨first, rfl, letter⟩, rest, _, rfl, inside, _, _, rfl, rfl, _, _, rfl, rfl,
      _, _, rfl, rfl, last⟩
    obtain rfl := matches_empty.1 last
    exact ⟨first, rest, by simp, letter, inside⟩
  · rintro ⟨first, rest, rfl, letter, inside⟩
    exact ⟨[first], _, rfl, ⟨first, rfl, letter⟩, rest, "://".toList, rfl, inside, [':'], ['/', '/'],
      rfl, rfl, ['/'], ['/'], rfl, rfl, ['/'], [], rfl, rfl, .empty⟩

theorem matches_labelsPieces :
    (row ((labelsPieces caseSensitive).map (·.2))).Matches before middle behind ↔
      AreLabels middle := by
  have dot : ∀ {before middle behind}, (Regex.one (closed caseSensitive (.singleton '.'))).Matches
      before middle behind ↔ middle = ['.'] := matches_caseless (by decide) (by decide)
  simp only [labelsPieces, List.map_cons, List.map_nil, matches_row_cons, matches_many,
    contains_labels, dot]
  constructor
  · rintro ⟨labels, _, rfl, inside, _, _, rfl, rfl, last⟩
    obtain rfl := matches_empty.1 last
    exact ⟨labels, by simp, inside⟩
  · rintro ⟨labels, rfl, inside⟩
    exact ⟨labels, ['.'], rfl, inside, ['.'], [], rfl, rfl, .empty⟩

/-- A glob may begin behind what the pieces for its first anchor match. -/
theorem beginsBehind_iff {anchor : GlobStart} {front : List Char} :
    (∃ before middle, front = before ++ middle ∧
      (row ((startPieces caseSensitive anchor).map (·.2))).Matches before middle behind) ↔
      BeginsBehind caseSensitive anchor front := by
  cases anchor with
  | anywhere =>
    simp only [startPieces, List.map_nil, row, matches_empty, BeginsBehind, iff_true]
    exact ⟨front, [], by simp, rfl⟩
  | start =>
    simp only [startPieces, List.map_cons, List.map_nil, row, matches_textStart, BeginsBehind]
    constructor
    · rintro ⟨_, _, rfl, rfl, rfl⟩
      rfl
    · rintro rfl
      exact ⟨[], [], rfl, rfl, rfl⟩
  | host =>
    simp only [startPieces, List.map_cons, List.map_nil, matches_row_cons, matches_textStart,
      matches_optional, matches_group, matches_schemePieces, matches_labelsPieces, BeginsBehind]
    constructor
    · rintro ⟨_, _, rfl, _, _, rfl, ⟨rfl, rfl⟩, scheme, _, rfl, isScheme, labels, _, rfl, areLabels,
        last⟩
      obtain rfl := matches_empty.1 last
      exact ⟨scheme, labels, by simp, isScheme, areLabels⟩
    · rintro ⟨scheme, labels, rfl, isScheme, areLabels⟩
      exact ⟨[], _, rfl, [], _, rfl, ⟨rfl, rfl⟩, scheme, labels, rfl, isScheme, labels, [], by simp,
        areLabels, .empty⟩

theorem matches_endPieces {atEnd : Bool} :
    (row ((endPieces atEnd).map (·.2))).Matches before middle behind ↔
      middle = [] ∧ (atEnd → behind = []) := by
  cases atEnd with
  | false => simp [endPieces, row, matches_empty]
  | true => simp [endPieces, row, matches_textEnd]

/-! ## Globs -/

/-- The parts of a glob that was read from a text can be written. -/
theorem writable_ofText (text : List Char) : ∀ part ∈ (ofText text).parts, part.IsWritable := by
  intro part member
  obtain ⟨c, -, rfl⟩ := List.mem_map.1 member
  exact ⟨c, rfl⟩

/-- The pieces of a glob find what it matches. -/
theorem matchesWithin_pieces {glob : Glob} {url : List Char} :
    (row ((glob.pieces caseSensitive).map (·.2))).MatchesWithin url ↔
      glob.Matches caseSensitive url := by
  have regexes : (glob.pieces caseSensitive).map (·.2) =
      (startPieces caseSensitive glob.start).map (·.2) ++
        (glob.parts.map (·.toRegex caseSensitive) ++ (endPieces glob.atEnd).map (·.2)) := by
    simp [pieces]
  simp only [MatchesWithin, regexes, matches_row_append, matches_parts, matches_endPieces]
  constructor
  · rintro ⟨before, _, behind, rfl, m₁, _, rfl, atStart, m₂, _, rfl, fits, rfl, atEnd⟩
    refine ⟨before ++ m₁, m₂, behind, by simp, ?_, by simpa using fits, atEnd⟩
    exact beginsBehind_iff.1 ⟨before, m₁, rfl, atStart⟩
  · rintro ⟨front, middle, behind, rfl, begins, fits, atEnd⟩
    obtain ⟨before, m₁, rfl, atStart⟩ := beginsBehind_iff.2 begins
    exact ⟨before, m₁ ++ middle, behind, by simp, m₁, middle, rfl, atStart, middle, [], by simp,
      by simpa using fits, rfl, atEnd⟩

/-- A glob matches what it does as its translation spells it. -/
theorem matches_spelled {glob : Glob} {url : List Char} :
    glob.spelled.Matches caseSensitive url ↔ glob.Matches caseSensitive url := by
  rw [spelled]
  split
  · rename_i bare
    rw [bare]
    constructor
    · exact fun _ => ⟨url, [], [], by simp, trivial, .nil, by simp⟩
    · exact fun _ => ⟨url, [], [], by simp, trivial, fits_wildcard_cons.2 ⟨[], [], rfl, by simp, .nil⟩, by simp⟩
  · have same : ∀ {middle behind}, Fits caseSensitive (squeeze false glob.parts) middle behind ↔
        Fits caseSensitive glob.parts middle behind := fits_squeeze false
    simp only [Matches, same]

theorem isMatch_toRegex {glob : Glob} {url : List Char} :
    (glob.toRegex caseSensitive).isMatch url ↔ glob.Matches caseSensitive url := by
  rw [isMatch_iff, toRegex, matchesWithin_pieces, matches_spelled]

end Glob

namespace FilterPattern

theorem translate_of_glob {raw : String}
    (isGlob : ∀ inner ≠ [], Text.trim raw.toList ≠ '/' :: inner ++ ['/']) :
    (translate raw).toList = (Glob.ofText (Text.trim raw.toList)).regexText := by
  have noLiteral : regexLiteral? (Text.trim raw.toList) = none := by
    cases literal : regexLiteral? (Text.trim raw.toList) with
    | none => rfl
    | some inner =>
      obtain ⟨nonempty, whole⟩ := regexLiteral?_eq_some_iff.1 literal
      exact absurd whole (isGlob inner nonempty)
  rw [translate, String.toList_ofList, translateChars, noLiteral]

/-- A pattern that is no regular expression between slashes is the text of one glob.  Its translation
compiles, unless the machines are too large, and what it compiles to finds something in a URL exactly if
the glob matches the URL. -/
theorem translate_spells_glob {raw : String}
    (isGlob : ∀ inner ≠ [], Text.trim raw.toList ≠ '/' :: inner ++ ['/']) :
    ∃ glob : Glob, (∀ written : Glob, written.IsWrittenAs (Text.trim raw.toList) ↔ written = glob) ∧
      ∀ caseSensitive, ∃ regex : Regex,
        (∀ maxSize, Regex.compile maxSize (!caseSensitive) (translate raw).toList =
          if regex.plan.fits maxSize then some regex else none) ∧
        ∀ url : String, regex.isMatch url.toList ↔ glob.Matches caseSensitive url.toList := by
  have writable := Glob.writable_ofText (Text.trim raw.toList)
  refine ⟨Glob.ofText (Text.trim raw.toList), fun _ => Glob.isWrittenAs_iff, fun caseSensitive => ?_⟩
  refine ⟨(Glob.ofText (Text.trim raw.toList)).toRegex caseSensitive, fun maxSize => ?_, fun url => ?_⟩
  · rw [translate_of_glob isGlob]
    exact Glob.compile_regexText caseSensitive writable maxSize
  · exact Glob.isMatch_toRegex

/-- The glob of a pattern with every anchor, a run of wildcards, a separator and letters of which one
has three cases. -/
theorem translate_spells_glob_anchored :
    (∀ inner ≠ [], Text.trim " ||k**.?^| ".toList ≠ '/' :: inner ++ ['/']) ∧
    (∀ written : Glob, written.IsWrittenAs (Text.trim " ||k**.?^| ".toList) ↔ written =
      ⟨.host, [.literal 'k', .wildcard, .wildcard, .literal '.', .literal '?', .separator], true⟩) ∧
    ∀ caseSensitive, ∃ regex : Regex,
      (∀ maxSize, Regex.compile maxSize (!caseSensitive) (translate " ||k**.?^| ").toList =
        if regex.plan.fits maxSize then some regex else none) ∧
      ∀ url : String, regex.isMatch url.toList ↔
        Glob.Matches ⟨.host,
          [.literal 'k', .wildcard, .wildcard, .literal '.', .literal '?', .separator], true⟩
          caseSensitive url.toList := by
  have isGlob : ∀ inner ≠ [], Text.trim " ||k**.?^| ".toList ≠ '/' :: inner ++ ['/'] := by
    intro inner _ same
    have first : (Text.trim " ||k**.?^| ".toList).head? = some '|' := by decide +kernel
    rw [same] at first
    cases first
  obtain ⟨glob, isGlobOf, finds⟩ := translate_spells_glob isGlob
  obtain rfl := (isGlobOf _).1 (Glob.isWrittenAs_iff.2 rfl)
  refine ⟨isGlob, ?_, ?_⟩
  · exact isGlobOf
  · exact finds

end FilterPattern

end ContentFilter
