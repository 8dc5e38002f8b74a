import ContentFilter.Unicode.CaseFolding

/-!
# Globs

The pattern of a filter that is not a regular expression.  A leading `||` binds it to the host of a URL
and a leading `|` to the start, a final `|` to the end.  Between them `*` stands for any text without a
line break, `^` for one separator or the end of the URL, and every other character for itself.

`Glob.Matches` says which URLs have a part that a glob fits; `Glob.regexText` writes a regular
expression for it.
-/

namespace ContentFilter

/-- Where the part of a URL that a glob fits begins. -/
inductive GlobStart where
  | anywhere
  | start
  /-- At the host or at a label of it; a scheme may stand in front. -/
  | host
deriving DecidableEq, Repr

/-- One element between the anchors of a glob. -/
inductive GlobPart where
  /-- Any text without a line break. -/
  | wildcard
  /-- A separator, or nothing at the end of the URL. -/
  | separator
  | literal (c : Char)
deriving DecidableEq, Repr

/-- A pattern cut into its parts. -/
structure Glob where
  start : GlobStart
  parts : List GlobPart
  /-- Whether what it fits reaches to the end of the URL. -/
  atEnd : Bool
deriving DecidableEq, Repr

namespace Glob

/-! ## Reading -/

/-- What a character between the anchors stands for. -/
def partOf (c : Char) : GlobPart :=
  if c = '*' then .wildcard else if c = '^' then .separator else .literal c

/-- The anchor at the start of a pattern, and the text behind it. -/
def splitStart : List Char → GlobStart × List Char
  | '|' :: '|' :: rest => (.host, rest)
  | '|' :: rest => (.start, rest)
  | pattern => (.anywhere, pattern)

/-- The glob of a text without white space around it.  Every text is one. -/
def ofText (text : List Char) : Glob :=
  let (anchor, body) := splitStart text
  let atEnd := body.getLast? == some '|'
  { start := anchor
    parts := (if atEnd then body.dropLast else body).map partOf
    atEnd }

/-! ## Meaning -/

/-- Whether a character of a URL passes for the wanted one. -/
def Accepts (caseSensitive : Bool) (wanted c : Char) : Prop :=
  if caseSensitive then c = wanted else wanted ∈ Unicode.caseOrbit c

/-- A character that is no separator: a letter, a digit or one of `_ . % -`. -/
def isInner (c : Char) : Bool :=
  c.isAlphanum || c == '_' || c == '.' || c == '%' || c == '-'

/-- A character that passes for none that is no separator. -/
def IsSeparator (caseSensitive : Bool) (c : Char) : Prop :=
  ∀ wanted, isInner wanted → ¬ Accepts caseSensitive wanted c

/-- A scheme with the `://` behind it. -/
def IsScheme (caseSensitive : Bool) (text : List Char) : Prop :=
  ∃ first rest, text = first :: rest ++ "://".toList ∧
    (∃ wanted, wanted.isAlpha ∧ Accepts caseSensitive wanted first) ∧
    ∀ c ∈ rest, ∃ wanted, (wanted.isAlphanum ∨ wanted ∈ ['+', '.', '-']) ∧
      Accepts caseSensitive wanted c

/-- Labels of a host, each with the dot behind it. -/
def AreLabels (text : List Char) : Prop :=
  ∃ labels, text = labels ++ ['.'] ∧ ∀ c ∈ labels, c ∉ ['/', '?', '#']

/-- What may stand in front of the part that a glob fits. -/
def BeginsBehind (caseSensitive : Bool) : GlobStart → List Char → Prop
  | .anywhere, _ => True
  | .start, before => before = []
  | .host, before =>
    ∃ scheme labels, before = scheme ++ labels ∧ (scheme = [] ∨ IsScheme caseSensitive scheme) ∧
      (labels = [] ∨ AreLabels labels)

/-- `Fits caseSensitive parts middle behind`: in a URL that goes on with `behind`, the parts fit
`middle`. -/
inductive Fits (caseSensitive : Bool) : List GlobPart → List Char → List Char → Prop
  | nil {behind} : Fits caseSensitive [] [] behind
  | wildcard {parts any middle behind} (oneLine : '\n' ∉ any)
      (rest : Fits caseSensitive parts middle behind) :
      Fits caseSensitive (.wildcard :: parts) (any ++ middle) behind
  | separator {parts c middle behind} (isSeparator : IsSeparator caseSensitive c)
      (rest : Fits caseSensitive parts middle behind) :
      Fits caseSensitive (.separator :: parts) (c :: middle) behind
  | separatorAtEnd {parts} (rest : Fits caseSensitive parts [] []) :
      Fits caseSensitive (.separator :: parts) [] []
  | literal {parts wanted c middle behind} (accepts : Accepts caseSensitive wanted c)
      (rest : Fits caseSensitive parts middle behind) :
      Fits caseSensitive (.literal wanted :: parts) (c :: middle) behind

/-- The glob fits some part of the URL. -/
def Matches (glob : Glob) (caseSensitive : Bool) (url : List Char) : Prop :=
  ∃ before middle behind, url = before ++ middle ++ behind ∧
    BeginsBehind caseSensitive glob.start before ∧ Fits caseSensitive glob.parts middle behind ∧
    (glob.atEnd → behind = [])

/-! ## Translation -/

/-- A character that has to be escaped in a regular expression to stand for itself. -/
def isMeta (c : Char) : Bool :=
  c == '\\' || c == '.' || c == '+' || c == '?' || c == '(' || c == ')' || c == '[' || c == ']' ||
    c == '{' || c == '}' || c == '|' || c == '$'

/-- The expression for a separator: any character but a letter, a digit or one of `_ . % -`, or the end
of the URL. -/
def separatorText : List Char := "(?:[^A-Za-z0-9_.%-]|$)".toList

/-- The expression for the place where a glob begins. -/
def startText : GlobStart → List Char
  | .anywhere => []
  | .start => ['^']
  | .host => "^(?:[A-Za-z][A-Za-z0-9+.-]*://)?(?:[^/?#]*\\.)?".toList

/-- The expression for parts.  A run of wildcards is written as one; `inRun` tells that a wildcard
stands in front. -/
def partsText (inRun : Bool) : List GlobPart → List Char
  | [] => []
  | .wildcard :: rest => (if inRun then [] else ['.', '*']) ++ partsText true rest
  | .separator :: rest => separatorText ++ partsText false rest
  | .literal c :: rest => (if isMeta c then ['\\', c] else [c]) ++ partsText false rest

/-- The expression that finds the URLs that a glob matches. -/
def regexText (glob : Glob) : List Char :=
  let text := startText glob.start ++ partsText false glob.parts ++
    (if glob.atEnd then ['$'] else [])
  if text.isEmpty then ['.', '*'] else text

end Glob

end ContentFilter
