import ContentFilter.Filter.Options
import ContentFilter.FilterPattern

/-!
# Reading network filters

A network filter is a pattern, with `@@` in front of an exception and with options behind a dollar
sign.
-/

namespace ContentFilter.Filter

/-- A line that is a comment or a header of a list. -/
def isComment (line : List Char) : Bool :=
  line.head? == some '!' || line.head? == some '['

/-- The text before and behind the first dollar sign that has no backslash in front of it. -/
def splitAtDollar (escaped : Bool) : List Char → Option (List Char × List Char)
  | [] => none
  | c :: rest =>
    if c = '$' && !escaped then some ([], rest)
    else (splitAtDollar (c == '\\') rest).map fun (before, behind) => (c :: before, behind)

/-- The text up to the last slash, that slash included. -/
def throughLastSlash (s : List Char) : List Char :=
  (s.reverse.dropWhile (· != '/')).reverse

/-- The pattern and the option clause of a filter.  Behind a `/regex/` pattern the clause is looked
for after the closing slash. -/
def splitOptions (body : List Char) : List Char × Option (List Char) :=
  let head := throughLastSlash body
  let skipped := if (FilterPattern.regexLiteral? head).isSome then head else []
  match splitAtDollar false (body.drop skipped.length) with
  | some (before, clause) => (skipped ++ before, some clause)
  | none => (body, none)

/-- The pattern as it is stored.  Patterns that match everything need a scope, and white space or a
bare `||` is invalid. -/
def storedPattern? (scope : Domain.Scope) (pattern : List Char) : Option (List Char) :=
  if pattern.any Unicode.isWhiteSpace then none
  else if pattern.isEmpty || pattern == ['*'] then
    if scope.includes.isEmpty then none else some ['*']
  else if pattern == ['|', '|'] then none
  else some pattern

/-- The network filter of a line that is known to be neither a comment nor cosmetic. -/
def networkOfLine? (line : List Char) : Option NetworkFilter := do
  let (isException, body) :=
    match line with
    | '@' :: '@' :: rest => (true, Text.trimStart rest)
    | _ => (false, line)
  let (patternText, clause) := splitOptions body
  let options ← match clause with
    | some clause => Options.parse? clause
    | none => some .none
  let pattern ← storedPattern? options.scope (Text.trim patternText)
  pure {
    pattern := String.ofList pattern
    isException
    scope := options.scope
    resourceTypes := options.resourceTypes
    party := options.party
    important := options.important
    matchCase := options.matchCase
    badfilter := options.badfilter
    sourceLine := String.ofList line }

end ContentFilter.Filter
