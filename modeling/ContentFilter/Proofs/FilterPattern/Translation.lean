import ContentFilter.FilterPattern.Glob
import ContentFilter.Proofs.Regex.Spelling

/-!
# The pieces of a translated glob

The text that a glob is translated into falls into pieces, one for each anchor and each part, and every
piece stands for the same expression whatever follows it.
-/

namespace ContentFilter

open Regex

namespace Glob

/-! ## Character sets -/

/-- The characters that pass for a member of the set. -/
def closed (caseSensitive : Bool) (set : CharSet) : CharSet :=
  (Modes.initial (!caseSensitive)).fold set

/-- The characters that are no separators. -/
def innerSet : CharSet :=
  .union (.range 'A' 'Z') (.union (.range 'a' 'z') (.union (.range '0' '9')
    (.union (.singleton '_') (.union (.singleton '.') (.union (.singleton '%') (.singleton '-'))))))

/-- The characters that a scheme begins with. -/
def schemeStartSet : CharSet := .union (.range 'A' 'Z') (.range 'a' 'z')

/-- The characters of a scheme behind its first one. -/
def schemeSet : CharSet :=
  .union (.range 'A' 'Z') (.union (.range 'a' 'z') (.union (.range '0' '9')
    (.union (.singleton '+') (.union (.singleton '.') (.singleton '-')))))

/-- The characters behind which no host goes on. -/
def hostEndSet : CharSet := .union (.singleton '/') (.union (.singleton '?') (.singleton '#'))

/-! ## Pieces -/

/-- The texts for a scheme with the `://` behind it, and what they stand for. -/
def schemePieces (caseSensitive : Bool) : List (List Char × Regex) :=
  [("[A-Za-z]".toList, .one (closed caseSensitive schemeStartSet)),
    ("[A-Za-z0-9+.-]*".toList, .repeated 0 none (.one (closed caseSensitive schemeSet))),
    ([':'], .one (closed caseSensitive (.singleton ':'))),
    (['/'], .one (closed caseSensitive (.singleton '/'))),
    (['/'], .one (closed caseSensitive (.singleton '/')))]

/-- The texts for labels of a host with the dot behind them, and what they stand for. -/
def labelsPieces (caseSensitive : Bool) : List (List Char × Regex) :=
  [("[^/?#]*".toList, .repeated 0 none (.one (.complement (closed caseSensitive hostEndSet)))),
    ("\\.".toList, .one (closed caseSensitive (.singleton '.')))]

/-- The texts that find where a glob begins, and what they stand for. -/
def startPieces (caseSensitive : Bool) : GlobStart → List (List Char × Regex)
  | .anywhere => []
  | .start => [(['^'], .position .textStart)]
  | .host =>
    [(['^'], .position .textStart),
      ("(?:[A-Za-z][A-Za-z0-9+.-]*://)?".toList,
        .repeated 0 (some 1) (.group false (row ((schemePieces caseSensitive).map (·.2))))),
      ("(?:[^/?#]*\\.)?".toList,
        .repeated 0 (some 1) (.group false (row ((labelsPieces caseSensitive).map (·.2)))))]

/-- The text for the end of a glob, and what it stands for. -/
def endPieces (atEnd : Bool) : List (List Char × Regex) :=
  if atEnd then [(['$'], .position .textEnd)] else []

end Glob

namespace GlobPart

open Glob

/-- The text for a part. -/
def text : GlobPart → List Char
  | .wildcard => ['.', '*']
  | .separator => separatorText
  | .literal c => if isMeta c then ['\\', c] else [c]

theorem text_ne_nil (part : GlobPart) : part.text ≠ [] := by
  cases part with
  | wildcard => simp [text]
  | separator =>
    have nonempty : separatorText ≠ [] := by decide
    exact nonempty
  | literal c =>
    rw [text]
    split <;> simp

/-- What the text for a part stands for. -/
def toRegex (caseSensitive : Bool) : GlobPart → Regex
  | .wildcard => .repeated 0 none (.one (.complement (.singleton '\n')))
  | .separator =>
    .group false (.alternate (.one (.complement (closed caseSensitive innerSet)))
      (.position .textEnd))
  | .literal c => .one (closed caseSensitive (.singleton c))

/-- The part is what some character between the anchors of a glob stands for. -/
def IsWritable (part : GlobPart) : Prop := ∃ c, part = partOf c

theorem IsWritable.plain {c : Char} (writable : (literal c).IsWritable) : c ≠ '*' ∧ c ≠ '^' := by
  obtain ⟨mark, isPart⟩ := writable
  rw [partOf] at isPart
  split at isPart
  · cases isPart
  · split at isPart
    · cases isPart
    · rename_i notStar notCaret
      obtain rfl := GlobPart.literal.inj isPart
      exact ⟨notStar, notCaret⟩

end GlobPart

namespace Glob

/-- The parts with every run of wildcards as one; `inRun` tells that a wildcard stands in front. -/
def squeeze (inRun : Bool) : List GlobPart → List GlobPart
  | [] => []
  | .wildcard :: rest => (if inRun then [] else [.wildcard]) ++ squeeze true rest
  | part :: rest => part :: squeeze false rest

/-- The glob as its translation spells it: runs of wildcards are one, and one stands where nothing at all
is asked of a URL. -/
def spelled (glob : Glob) : Glob :=
  if glob = ⟨.anywhere, [], false⟩ then ⟨.anywhere, [.wildcard], false⟩
  else { glob with parts := squeeze false glob.parts }

/-- The pieces of the translation of a glob, and what they stand for. -/
def pieces (caseSensitive : Bool) (glob : Glob) : List (List Char × Regex) :=
  startPieces caseSensitive glob.start ++
    glob.parts.map (fun part => (part.text, part.toRegex caseSensitive)) ++ endPieces glob.atEnd

/-- What the translation of a glob stands for. -/
def toRegex (caseSensitive : Bool) (glob : Glob) : Regex :=
  row ((glob.spelled.pieces caseSensitive).map (·.2))

/-! ## The pieces make up the text -/

theorem flatMap_startPieces (caseSensitive : Bool) (anchor : GlobStart) :
    (startPieces caseSensitive anchor).flatMap (·.1) = startText anchor := by
  cases anchor <;> rfl

theorem flatMap_endPieces (atEnd : Bool) :
    (endPieces atEnd).flatMap (·.1) = if atEnd then ['$'] else [] := by
  cases atEnd <;> rfl

theorem partsText_eq (inRun : Bool) (parts : List GlobPart) :
    partsText inRun parts = (squeeze inRun parts).flatMap GlobPart.text := by
  induction parts generalizing inRun with
  | nil => rfl
  | cons part rest ih =>
    cases part with
    | wildcard => cases inRun <;> simp [partsText, squeeze, ih, GlobPart.text]
    | separator => simp [partsText, squeeze, ih, GlobPart.text]
    | literal c => simp [partsText, squeeze, ih, GlobPart.text]

theorem flatMap_pieces (caseSensitive : Bool) (glob : Glob) :
    (glob.pieces caseSensitive).flatMap (·.1) =
      startText glob.start ++ glob.parts.flatMap GlobPart.text ++
        if glob.atEnd then ['$'] else [] := by
  rw [pieces, List.flatMap_append, List.flatMap_append, flatMap_startPieces, flatMap_endPieces,
    List.flatMap_map]

theorem squeeze_eq_nil {parts : List GlobPart} (none : squeeze false parts = []) : parts = [] := by
  cases parts with
  | nil => rfl
  | cons part rest => cases part <;> simp [squeeze] at none

theorem eq_anywhere_of_startText {anchor : GlobStart} (none : startText anchor = []) :
    anchor = .anywhere := by
  revert none
  cases anchor <;> decide

/-- Where anything is asked of a URL, there is text for it. -/
theorem text_ne_nil {glob : Glob} (asks : glob ≠ ⟨.anywhere, [], false⟩) :
    startText glob.start ++ (squeeze false glob.parts).flatMap GlobPart.text ++
      (if glob.atEnd then ['$'] else []) ≠ [] := by
  intro none
  obtain ⟨front, atEnd⟩ := List.append_eq_nil_iff.1 none
  obtain ⟨anchor, inside⟩ := List.append_eq_nil_iff.1 front
  obtain ⟨begins, parts, ends⟩ := glob
  have isAnywhere : begins = .anywhere := eq_anywhere_of_startText anchor
  have noParts : parts = [] := squeeze_eq_nil (by
    cases squeezed : squeeze false parts with
    | nil => rfl
    | cons part rest =>
      simp only [squeezed, List.flatMap_cons, List.append_eq_nil_iff] at inside
      exact absurd inside.1 part.text_ne_nil)
  have goesOn : ends = false := by
    cases ends with
    | false => rfl
    | true => simp at atEnd
  exact asks (by rw [isAnywhere, noParts, goesOn])

/-- A translation is never empty. -/
theorem regexText_ne_nil (glob : Glob) : glob.regexText ≠ [] := by
  unfold regexText
  extract_lets text
  split
  · exact List.cons_ne_nil _ _
  · rename_i filled
    simpa only [List.isEmpty_iff] using filled

theorem regexText_eq (caseSensitive : Bool) (glob : Glob) :
    glob.regexText = (glob.spelled.pieces caseSensitive).flatMap (·.1) := by
  rw [flatMap_pieces, spelled]
  split
  · rename_i bare
    rw [bare]
    rfl
  · rename_i asks
    rw [regexText, partsText_eq]
    exact if_neg (by simpa only [List.isEmpty_iff] using text_ne_nil asks)

/-! ## What the pieces stand for -/

variable (caseSensitive : Bool)

/-- A character in a class. -/
def classLiteral (c : Char) : ClassSet := .literal ⟨c, false⟩

/-- The characters between two others in a class. -/
def classRange (low high : Char) : ClassSet := .range ⟨low, false⟩ ⟨high, false⟩

theorem denotes_schemeStart :
    Denotes (!caseSensitive) 2 "[A-Za-z]".toList (.one (closed caseSensitive schemeStartSet)) :=
  .atom (e := .bracketed false (.ofParts [classRange 'A' 'Z', classRange 'a' 'z']))
    ⟨fun _ _ _ _ => rfl, by decide, by decide, rfl⟩ rfl (by decide) rfl

theorem denotes_schemeRest : Denotes (!caseSensitive) 3 "[A-Za-z0-9+.-]*".toList
    (.repeated 0 none (.one (closed caseSensitive schemeSet))) := by
  have one : Denotes (!caseSensitive) 2 "[A-Za-z0-9+.-]".toList
      (.one (closed caseSensitive schemeSet)) :=
    .atom (e := .bracketed false (.ofParts [classRange 'A' 'Z', classRange 'a' 'z',
        classRange '0' '9', classLiteral '+', classLiteral '.', classLiteral '-']))
      ⟨fun _ _ _ _ => rfl, by decide, by decide, rfl⟩ rfl (by decide) rfl
  exact one.star

theorem denotes_labels : Denotes (!caseSensitive) 3 "[^/?#]*".toList
    (.repeated 0 none (.one (.complement (closed caseSensitive hostEndSet)))) := by
  have one : Denotes (!caseSensitive) 2 "[^/?#]".toList
      (.one (.complement (closed caseSensitive hostEndSet))) :=
    .atom (e := .bracketed true (.ofParts [classLiteral '/', classLiteral '?', classLiteral '#']))
      ⟨fun _ _ _ _ => rfl, by decide, by decide, rfl⟩ rfl (by decide) rfl
  exact one.star

theorem denotes_separator : Denotes (!caseSensitive) 4 separatorText
    (GlobPart.separator.toRegex caseSensitive) := by
  have one : Denotes (!caseSensitive) 2 "[^A-Za-z0-9_.%-]".toList
      (.one (.complement (closed caseSensitive innerSet))) :=
    .atom (e := .bracketed true (.ofParts [classRange 'A' 'Z', classRange 'a' 'z',
        classRange '0' '9', classLiteral '_', classLiteral '.', classLiteral '%', classLiteral '-']))
      ⟨fun _ _ _ _ => rfl, by decide, by decide, rfl⟩ rfl (by decide) rfl
  exact one.choice (Denotes.lineEnd.mono (by decide))

/-- What has to be escaped is read back from its escape. -/
theorem readEscape_of_isMeta {c : Char} (special : isMeta c) (rest : List Char) :
    readEscape false (c :: rest) = some (.literal ⟨c, false⟩, rest) := by
  simp only [isMeta, Bool.or_eq_true, beq_iff_eq] at special
  rcases special with ((((((((((rfl | rfl) | rfl) | rfl) | rfl) | rfl) | rfl) | rfl) | rfl) | rfl) | rfl) | rfl
  all_goals rfl

theorem denotes_literal {c : Char} (writable : (GlobPart.literal c).IsWritable) :
    Denotes (!caseSensitive) 0 (GlobPart.literal c).text
      (.one (closed caseSensitive (.singleton c))) := by
  rw [GlobPart.text]
  split
  · rename_i special
    exact .escaped (readEscape_of_isMeta special)
  · rename_i plain
    refine .literal fun operator => plain ?_
    obtain ⟨notStar, notCaret⟩ := writable.plain
    simp only [Reads.operators, List.mem_cons, List.not_mem_nil, or_false] at operator
    simp only [isMeta, Bool.or_eq_true, beq_iff_eq]
    grind

theorem denotes_part {part : GlobPart} (writable : part.IsWritable) :
    Denotes (!caseSensitive) 4 part.text (part.toRegex caseSensitive) := by
  cases part with
  | wildcard => exact Denotes.dot.star.mono (by decide)
  | separator => exact denotes_separator caseSensitive
  | literal c => exact (denotes_literal caseSensitive writable).mono (by decide)

theorem denotes_schemePieces : ∀ piece ∈ schemePieces caseSensitive,
    Denotes (!caseSensitive) 3 piece.1 piece.2 := by
  have colon : Denotes (!caseSensitive) 3 [':'] _ := (Denotes.literal (by decide)).mono (by decide)
  have slash : Denotes (!caseSensitive) 3 ['/'] _ := (Denotes.literal (by decide)).mono (by decide)
  have first := (denotes_schemeStart caseSensitive).mono (show 2 ≤ 3 by decide)
  simp only [schemePieces, List.forall_mem_cons]
  exact ⟨first, denotes_schemeRest caseSensitive, colon, slash, slash, by simp⟩

theorem denotes_labelsPieces : ∀ piece ∈ labelsPieces caseSensitive,
    Denotes (!caseSensitive) 3 piece.1 piece.2 := by
  have dot : Denotes (!caseSensitive) 3 "\\.".toList _ :=
    (Denotes.escaped fun _ => rfl).mono (by decide)
  simp only [labelsPieces, List.forall_mem_cons]
  exact ⟨denotes_labels caseSensitive, dot, by simp⟩

theorem denotes_start (anchor : GlobStart) : ∀ piece ∈ startPieces caseSensitive anchor,
    Denotes (!caseSensitive) 6 piece.1 piece.2 := by
  have first : Denotes (!caseSensitive) 6 ['^'] _ := Denotes.lineStart.mono (by decide)
  cases anchor with
  | anywhere => simp [startPieces]
  | start => simpa [startPieces] using first
  | host =>
    simp only [startPieces, List.forall_mem_cons]
    exact ⟨first, Denotes.optional (denotes_schemePieces caseSensitive),
      Denotes.optional (denotes_labelsPieces caseSensitive), by simp⟩

theorem denotes_pieces {glob : Glob} (writable : ∀ part ∈ glob.parts, part.IsWritable) :
    ∀ piece ∈ glob.pieces caseSensitive, Denotes (!caseSensitive) 6 piece.1 piece.2 := by
  intro piece member
  simp only [pieces, List.mem_append, List.mem_map] at member
  rcases member with (atStart | ⟨part, member, rfl⟩) | atEnd
  · exact denotes_start caseSensitive glob.start piece atStart
  · exact (denotes_part caseSensitive (writable part member)).mono (by decide)
  · simp only [endPieces] at atEnd
    split at atEnd
    · obtain rfl := List.mem_singleton.1 atEnd
      exact Denotes.lineEnd.mono (by decide)
    · simp at atEnd

theorem mem_squeeze {inRun : Bool} {parts : List GlobPart} {part : GlobPart}
    (member : part ∈ squeeze inRun parts) : part ∈ parts := by
  induction parts generalizing inRun with
  | nil => cases member
  | cons first rest ih =>
    cases first with
    | wildcard =>
      rcases List.mem_append.1 member with now | later
      · cases inRun <;> simp_all
      · exact List.mem_cons_of_mem _ (ih later)
    | separator | literal =>
      rcases List.mem_cons.1 member with rfl | later
      · exact List.mem_cons_self
      · exact List.mem_cons_of_mem _ (ih later)

theorem writable_spelled {glob : Glob} (writable : ∀ part ∈ glob.parts, part.IsWritable) :
    ∀ part ∈ glob.spelled.parts, part.IsWritable := by
  intro part member
  rw [spelled] at member
  split at member
  · obtain rfl := List.mem_singleton.1 member
    exact ⟨'*', rfl⟩
  · exact writable part (mem_squeeze member)

/-- The translation of a glob compiles to what it stands for, if the machines are small enough. -/
theorem compile_regexText {glob : Glob} (writable : ∀ part ∈ glob.parts, part.IsWritable)
    (maxSize : Nat) : compile maxSize (!caseSensitive) glob.regexText =
      if (glob.toRegex caseSensitive).plan.fits maxSize then some (glob.toRegex caseSensitive)
      else none := by
  have shallow : 6 < maxHeight := by decide
  rw [regexText_eq caseSensitive]
  exact compile_flatMap shallow (denotes_pieces caseSensitive (writable_spelled writable)) maxSize

end Glob

end ContentFilter
