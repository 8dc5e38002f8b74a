import ContentFilter.FilterPattern.Glob
import ContentFilter.Regex.Compile
import ContentFilter.Text

/-!
# Patterns of network filters

The pattern part of a network filter: a regular expression between slashes, or a glob such as
`||host^`, `|https://` or `/ads/*.gif`, which is translated into one.  Every text has a translation;
whether that is a valid expression is a question of its own.
-/

namespace ContentFilter.FilterPattern

/-- The regular expression between the slashes of a `/regex/` pattern, if the pattern is one. -/
def regexLiteral? (pattern : List Char) : Option (List Char) :=
  match pattern with
  | '/' :: c :: rest =>
    if (c :: rest).getLast? == some '/' && !rest.isEmpty then some (c :: rest).dropLast else none
  | _ => none

/-- The regular expression of a pattern, as text. -/
def translateChars (pattern : List Char) : List Char :=
  let pattern := Text.trim pattern
  match regexLiteral? pattern with
  | some inner => inner
  | none => (Glob.ofText pattern).regexText

/-- The regular expression of a pattern. -/
def translate (pattern : String) : String := String.ofList (translateChars pattern.toList)

/-- How many bytes the machines of a pattern may take that is accepted into a rule set. -/
def maxRuleSize : Nat := 1048576

/-- How many bytes the machines of a pattern may take that is loaded for matching. -/
def maxLoadedSize : Nat := 10 * maxRuleSize

/-- Whether a translated pattern is accepted into a rule set. -/
def isValid (pattern : String) : Bool :=
  !pattern.isEmpty && (Regex.compile maxRuleSize false pattern.toList).isSome

/-- The regular expression that a rule with this pattern searches for. -/
def load? (caseSensitive : Bool) (pattern : String) : Option Regex :=
  Regex.compile maxLoadedSize (!caseSensitive) pattern.toList

end ContentFilter.FilterPattern
